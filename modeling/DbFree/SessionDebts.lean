import DbFree.SlotOwners

/- What the flags of the sessions say between calls: a tab that is owed word of a lost
session has a slot in the table whose flags will tell it. -/
namespace DbFree.Pooling

namespace Pins

/-- The flags of the tabs' sessions agree with what the tabs are owed. -/
structure Settled (dialect : Dialect) (pins : Pins) : Prop where
  speaks : pins.dialect = dialect
  keyed : ∀ key slot, pins.find key = some slot →
    (pins.slots slot).key = key ∧ (pins.slots slot).standing = .mapped
  unmade : ∀ slot, pins.made ≤ slot → (pins.slots slot).standing = .unmade
  tasks : ∀ slot, pins.spawned slot = true → (pins.slots slot).standing = .retiring
  debts : ∀ key conn, pins.owed key = some conn → ∃ slot, pins.find key = some slot ∧
    (pins.slots slot).state.stateful = true ∧ ((pins.slots slot).state.conn = some conn ∨
      (pins.slots slot).state.conn = none ∧ (pins.slots slot).state.unannouncedLoss = true)
  clean : ∀ key slot, pins.find key = some slot → (pins.slots slot).state.stateful = true →
    pins.owed key ≠ none

variable {dialect : Dialect} {pins next : Pins} {slot : Nat} {key : Text}

theorem new_settled (limits : Limits) (dialect : Dialect) :
    Settled dialect (new limits dialect) where
  speaks := rfl
  keyed _ _ found := nomatch found
  unmade _ _ := rfl
  tasks _ spawned := nomatch spawned
  debts _ _ owed := nomatch owed
  clean _ _ found := nomatch found

theorem find_of_table (same : next.table = pins.table) (key : Text) :
    next.find key = pins.find key := by
  rw [find, find, same]

theorem find_removeEntry (pins : Pins) (key other : Text) :
    (pins.removeEntry key).find other = if other = key then none else pins.find other := by
  unfold find removeEntry
  rw [List.find?_filter]
  by_cases same : other = key
  · rw [if_pos same, same]
    simp
  · rw [if_neg same]
    congr 2
    funext entry
    by_cases here : entry.1 = other
    · simp [here, same]
    · simp [here]

theorem find_insertSlot (pins : Pins) (thread : Nat) (key : Text) (now : Nat) (other : Text) :
    (pins.insertSlot thread key now).find other =
      if other = key then some pins.made else pins.find other := by
  unfold find insertSlot
  by_cases same : other = key
  · rw [if_pos same, same]
    simp
  · rw [if_neg same, List.find?_cons_of_neg]
    simpa using Ne.symm same

/-- The session of one slot changes, and with it what its tab is owed. -/
theorem Settled.session (settled : Settled dialect pins) (same : SameShape slot pins next)
    (speaks : next.dialect = pins.dialect)
    (others : ∀ key, pins.find key ≠ some slot → next.owed key = pins.owed key)
    (debts : ∀ key conn, pins.find key = some slot → next.owed key = some conn →
      (next.slots slot).state.stateful = true ∧ ((next.slots slot).state.conn = some conn ∨
        (next.slots slot).state.conn = none ∧ (next.slots slot).state.unannouncedLoss = true))
    (clean : ∀ key, pins.find key = some slot → (next.slots slot).state.stateful = true →
      next.owed key ≠ none) : Settled dialect next where
  speaks := by rw [speaks, settled.speaks]
  keyed key other found := by
    rw [find_of_table same.table] at found
    rw [same.keys, same.standings]
    exact settled.keyed key other found
  unmade other later := by
    rw [same.made] at later
    rw [same.standings]
    exact settled.unmade other later
  tasks other spawned := by
    rw [same.spawned] at spawned
    rw [same.standings]
    exact settled.tasks other spawned
  debts key conn owed := by
    rw [find_of_table same.table]
    by_cases here : pins.find key = some slot
    · exact ⟨slot, here, debts key conn here owed⟩
    · rw [others key here] at owed
      obtain ⟨other, found, flags⟩ := settled.debts key conn owed
      have different : other ≠ slot := by
        intro other_eq
        rw [other_eq] at found
        exact here found
      exact ⟨other, found, by rw [same.others other different]; exact flags⟩
  clean key other found stateful := by
    rw [find_of_table same.table] at found
    by_cases here : other = slot
    · rw [here] at found stateful
      exact clean key found stateful
    · rw [same.others other here] at stateful
      rw [others key (by rw [found]; exact fun eq => here (Option.some.inj eq))]
      exact settled.clean key other found stateful

theorem Settled.quiet (settled : Settled dialect pins) (same : SameShape slot pins next)
    (speaks : next.dialect = pins.dialect) (owed : next.owed = pins.owed)
    (conn : (next.slots slot).state.conn = (pins.slots slot).state.conn)
    (stateful : (next.slots slot).state.stateful = (pins.slots slot).state.stateful)
    (loss : (next.slots slot).state.unannouncedLoss = (pins.slots slot).state.unannouncedLoss) :
    Settled dialect next := by
  apply settled.session same speaks
  · exact fun _ _ => by rw [owed]
  · intro key conn_owed found debt
    rw [owed] at debt
    rw [conn, stateful, loss]
    obtain ⟨other, found_other, flags⟩ := settled.debts key conn_owed debt
    rw [found] at found_other
    cases found_other
    exact flags
  · intro key found flagged
    rw [stateful] at flagged
    rw [owed]
    exact settled.clean key slot found flagged

/-- A connection that nobody runs on is closed, which its tab is still to be told. -/
theorem Settled.lose (settled : Settled dialect pins) (slot : Nat) :
    Settled dialect ((pins.setState slot fun s => { s with conn := none }).setState slot
      fun s => { s with unannouncedLoss := true }) := by
  have here : ((pins.setState slot fun s => { s with conn := none }).setState slot
      fun s => { s with unannouncedLoss := true }).slots slot = { pins.slots slot with
        state := { (pins.slots slot).state with
          conn := none
          unannouncedLoss := true } } := by
    rw [setState, modify_self, setState, modify_self]
  have same : SameShape slot pins ((pins.setState slot fun s => { s with conn := none }).setState
      slot fun s => { s with unannouncedLoss := true }) := by
    refine ⟨rfl, rfl, rfl, rfl, fun other different => ?_, by rw [here], by rw [here]⟩
    rw [setState, modify_of_ne _ different, setState, modify_of_ne _ different]
  apply settled.session same rfl
  · exact fun _ _ => rfl
  · intro key conn found owed
    obtain ⟨other, found_other, flags⟩ := settled.debts key conn owed
    rw [found] at found_other
    cases found_other
    rw [here]
    exact ⟨flags.1, .inr ⟨rfl, rfl⟩⟩
  · intro key found stateful
    rw [here] at stateful
    exact settled.clean key slot found stateful

/-- A slot in the table belongs to one key. -/
theorem Settled.key_eq (settled : Settled dialect pins) {other : Text}
    (one : pins.find key = some slot) (two : pins.find other = some slot) : other = key := by
  rw [← (settled.keyed key slot one).1, (settled.keyed other slot two).1]

theorem Settled.owes_nothing (settled : Settled dialect pins) (found : pins.find key = some slot)
    (stateless : (pins.slots slot).state.stateful = false) : pins.owed key = none := by
  cases owed : pins.owed key with
  | none => rfl
  | some conn =>
    obtain ⟨other, found_other, flags⟩ := settled.debts key conn owed
    rw [found] at found_other
    cases found_other
    rw [stateless] at flags
    cases flags.1

/-- A flagged loss of a session with state, or nothing owed: what the tab of a slot without
a connection is to be told. -/
theorem Settled.lost_or_free (settled : Settled dialect pins) (found : pins.find key = some slot)
    (none_open : (pins.slots slot).state.conn = none) :
    (pins.slots slot).state.unannouncedLoss = true ∨
      (pins.slots slot).state.stateful = false := by
  cases stateful : (pins.slots slot).state.stateful with
  | false => exact .inr rfl
  | true =>
    obtain ⟨conn, owed⟩ := Option.ne_none_iff_exists'.mp (settled.clean key slot found stateful)
    obtain ⟨other, found_other, -, flags⟩ := settled.debts key conn owed
    rw [found] at found_other
    cases found_other
    cases flags with
    | inl opened =>
      rw [none_open] at opened
      cases opened
    | inr lost => exact .inl lost.2

/-- The tab of the slot has been told, or has nothing to be told. -/
theorem Settled.clear (settled : Settled dialect pins) (found : pins.find key = some slot)
    (same : SameShape slot pins next) (speaks : next.dialect = pins.dialect)
    (owed : next.owed = pins.owed) {telling : Telling}
    (silent : telling = .nothing → (pins.slots slot).state.stateful = false) :
    Settled dialect (next.clearFlags slot telling) ∧
      (next.clearFlags slot telling).owed = Function.update pins.owed key none := by
  have key_eq : (next.slots slot).key = key := same.key.trans (settled.keyed key slot found).1
  have cleared : (next.clearFlags slot telling).owed = Function.update pins.owed key none := by
    cases telling with
    | nothing =>
      rw [← settled.owes_nothing found (silent rfl), Function.update_eq_self, ← owed]
      rfl
    | expired => rw [← key_eq, ← owed]; rfl
    | lost => rw [← key_eq, ← owed]; rfl
  have here : (next.clearFlags slot telling).slots slot = { next.slots slot with
      state := { (next.slots slot).state with
        unannouncedLoss := false
        stateful := false } } := by
    cases telling <;> exact Function.update_self ..
  have shape : SameShape slot pins (next.clearFlags slot telling) := by
    refine ⟨?_, ?_, ?_, ?_, fun other different => ?_, ?_, ?_⟩
    · cases telling <;> exact same.table
    · cases telling <;> exact same.made
    · cases telling <;> exact same.waiting
    · cases telling <;> exact same.spawned
    · rw [← same.others other different]
      cases telling <;> exact Function.update_of_ne different ..
    · rw [here]
      exact same.key
    · rw [here]
      exact same.standing
  refine ⟨settled.session shape (by cases telling <;> exact speaks) ?_ ?_ ?_, cleared⟩
  · intro other elsewhere
    rw [cleared, Function.update_of_ne]
    intro other_eq
    rw [other_eq] at elsewhere
    exact elsewhere found
  · intro other conn found_other debt
    rw [cleared, settled.key_eq found found_other, Function.update_self] at debt
    cases debt
  · intro other _ stateful
    rw [here] at stateful
    cases stateful

theorem openOn_self (pins : Pins) (slot : Nat) :
    (pins.openOn slot).slots slot = { pins.slots slot with
      state := { (pins.slots slot).state with conn := some pins.opened } } := by
  exact Function.update_self ..

/-- A connection is opened for a tab that is owed nothing. -/
theorem Settled.opened (settled : Settled dialect pins) (found : pins.find key = some slot)
    (free : pins.owed key = none) : Settled dialect (pins.openOn slot) := by
  have here := openOn_self pins slot
  have same : SameShape slot pins (pins.openOn slot) := by
    refine ⟨rfl, rfl, rfl, rfl, fun other different => ?_, by rw [here], by rw [here]⟩
    exact Function.update_of_ne different ..
  apply settled.session same rfl
  · exact fun _ _ => rfl
  · intro other conn found_other debt
    change pins.owed other = some conn at debt
    rw [settled.key_eq found found_other, free] at debt
    cases debt
  · intro other found_other stateful
    rw [here] at stateful
    exact settled.clean other slot found_other stateful

/-- The session as a script that is about to be sent finds it. -/
def flagFor (pins : Pins) (slot : Nat) (sql : Text) : Pins :=
  if (scan sql pins.dialect).any then pins.setState slot fun s => { s with stateful := true }
  else pins

theorem flagFor_conn (pins : Pins) (slot : Nat) (sql : Text) :
    ((pins.flagFor slot sql).slots slot).state.conn = (pins.slots slot).state.conn := by
  unfold flagFor
  split
  · rw [setState, modify_self]
  · rfl

/-- What a script on an open connection changes. -/
theorem sendOn_eq {conn : Nat} (opened : (pins.slots slot).state.conn = some conn) (sql : Text) :
    pins.sendOn slot sql = { pins.touchConn slot with
      sent := ((pins.slots slot).key, conn, sql) :: pins.sent
      owed := if (scan sql pins.dialect).any then
        Function.update pins.owed (pins.slots slot).key (some conn) else pins.owed } := by
  unfold sendOn
  rw [opened]

/-- A script is sent on the connection that holds what the tab set before. -/
theorem Settled.sent (settled : Settled dialect pins) (found : pins.find key = some slot)
    {conn : Nat} (opened : (pins.slots slot).state.conn = some conn) (sql : Text) :
    Settled dialect ((pins.flagFor slot sql).sendOn slot sql) ∧
      ((pins.flagFor slot sql).sendOn slot sql).sent = (key, conn, sql) :: pins.sent ∧
      ((pins.flagFor slot sql).sendOn slot sql).owed =
        if (scan sql dialect).any then Function.update pins.owed key (some conn)
        else pins.owed := by
  have key_eq := (settled.keyed key slot found).1
  have opened_flagged := (flagFor_conn pins slot sql).trans opened
  rw [sendOn_eq opened_flagged]
  unfold flagFor
  rw [settled.speaks]
  cases flagged : (scan sql dialect).any with
  | false =>
    rw [if_neg Bool.false_ne_true, settled.speaks, flagged, if_neg Bool.false_ne_true, key_eq]
    refine ⟨?_, rfl, rfl⟩
    have same : SameShape slot pins { pins.touchConn slot with
        sent := (key, conn, sql) :: pins.sent
        owed := pins.owed } := ⟨rfl, rfl, rfl, rfl, fun _ _ => rfl, rfl, rfl⟩
    exact settled.quiet same rfl rfl rfl rfl rfl
  | true =>
    have here : (pins.setState slot fun s => { s with stateful := true }).slots slot =
        { pins.slots slot with state := { (pins.slots slot).state with stateful := true } } := by
      rw [setState, modify_self]
    have speaks : (pins.setState slot fun s => { s with stateful := true }).dialect = dialect :=
      settled.speaks
    rw [if_pos rfl, if_pos rfl, here, speaks, flagged, if_pos rfl, key_eq]
    refine ⟨?_, rfl, rfl⟩
    have same : SameShape slot pins
        { (pins.setState slot fun s => { s with stateful := true }).touchConn slot with
          sent := (key, conn, sql) :: pins.sent
          owed := Function.update pins.owed key (some conn) } := by
      refine ⟨rfl, rfl, rfl, rfl, fun other different => ?_, ?_, ?_⟩
      · exact Function.update_of_ne different ..
      · have key_same := congrArg Slot.key here
        exact key_same
      · have standing_same := congrArg Slot.standing here
        exact standing_same
    apply settled.session same rfl
    · intro other elsewhere
      apply Function.update_of_ne
      intro other_eq
      rw [other_eq] at elsewhere
      exact elsewhere found
    · intro other debt found_other owes
      rw [settled.key_eq found found_other] at owes
      change Function.update pins.owed key (some conn) key = some debt at owes
      rw [Function.update_self] at owes
      cases owes
      refine ⟨congrArg (fun s => s.state.stateful) here, .inl ?_⟩
      exact (congrArg (fun s => s.state.conn) here).trans opened
    · intro other found_other _
      show Function.update pins.owed key (some conn) other ≠ none
      rw [settled.key_eq found found_other, Function.update_self]
      simp

theorem Settled.lt_made (settled : Settled dialect pins)
    (made : (pins.slots slot).standing ≠ .unmade) : slot < pins.made := by
  by_contra later
  exact made (settled.unmade slot (Nat.le_of_not_lt later))

/-- A slot that is not in the table changes, and stays out of it. -/
theorem Settled.elsewhere (settled : Settled dialect pins)
    (unmapped : (pins.slots slot).standing ≠ .mapped ∧ (pins.slots slot).standing ≠ .unmade)
    (table : next.table = pins.table)
    (made : next.made = pins.made) (speaks : next.dialect = pins.dialect)
    (owed : next.owed = pins.owed)
    (others : ∀ other, other ≠ slot → next.slots other = pins.slots other)
    (tasks : ∀ other, next.spawned other = true → (next.slots other).standing = .retiring) :
    Settled dialect next := by
  have different : ∀ key other, pins.find key = some other → other ≠ slot := by
    intro key other found other_eq
    rw [other_eq] at found
    exact unmapped.1 (settled.keyed key slot found).2
  refine ⟨by rw [speaks, settled.speaks], ?_, ?_, tasks, ?_, ?_⟩
  · intro key other found
    rw [find_of_table table] at found
    rw [others other (different key other found)]
    exact settled.keyed key other found
  · intro other later
    rw [made] at later
    have lower := settled.lt_made unmapped.2
    rw [others other (by omega)]
    exact settled.unmade other later
  · intro key conn debt
    rw [owed] at debt
    obtain ⟨other, found, flags⟩ := settled.debts key conn debt
    rw [find_of_table table]
    exact ⟨other, found, by rw [others other (different key other found)]; exact flags⟩
  · intro key other found stateful
    rw [find_of_table table] at found
    rw [others other (different key other found)] at stateful
    rw [owed]
    exact settled.clean key other found stateful

/-- A new slot for a tab that has none. -/
theorem Settled.insert (settled : Settled dialect pins) (missing : pins.find key = none)
    (thread now : Nat) : Settled dialect (pins.insertSlot thread key now) := by
  have made : (pins.insertSlot thread key now).made = pins.made + 1 := rfl
  have old : ∀ other slot, pins.find other = some slot → other ≠ key ∧ slot ≠ pins.made := by
    intro other slot found
    have mapped := (settled.keyed other slot found).2
    refine ⟨fun same => ?_, Nat.ne_of_lt (settled.lt_made (by rw [mapped]; simp))⟩
    rw [same, missing] at found
    cases found
  refine ⟨settled.speaks, ?_, ?_, ?_, ?_, ?_⟩
  · intro other slot found
    rw [find_insertSlot] at found
    split at found
    · rename_i same
      cases found
      rw [insertSlot_self]
      exact ⟨same.symm, rfl⟩
    · rw [insertSlot_of_ne pins thread key now (old other slot found).2]
      exact settled.keyed other slot found
  · intro slot later
    rw [made] at later
    rw [insertSlot_of_ne pins thread key now (by omega)]
    exact settled.unmade slot (by omega)
  · intro slot spawned
    have kept := settled.tasks slot spawned
    rw [insertSlot_of_ne pins thread key now
      (Nat.ne_of_lt (settled.lt_made (by rw [kept]; simp)))]
    exact kept
  · intro other conn owed
    obtain ⟨slot, found, flags⟩ := settled.debts other conn owed
    have different := old other slot found
    refine ⟨slot, ?_, ?_⟩
    · rw [find_insertSlot, if_neg different.1]
      exact found
    · rw [insertSlot_of_ne pins thread key now different.2]
      exact flags
  · intro other slot found stateful
    rw [find_insertSlot] at found
    split at found
    · cases found
      rw [insertSlot_self] at stateful
      cases stateful
    · rw [insertSlot_of_ne pins thread key now (old other slot found).2] at stateful
      exact settled.clean other slot found stateful

/-- The slot of a tab leaves the table, and the tab is owed nothing. -/
theorem Settled.takeOut (settled : Settled dialect pins) (found : pins.find key = some slot)
    (free : next.owed key = none) (table : next.table = (pins.removeEntry key).table)
    (made : next.made = pins.made) (speaks : next.dialect = pins.dialect)
    (owed : ∀ other, other ≠ key → next.owed other = pins.owed other)
    (others : ∀ other, other ≠ slot → next.slots other = pins.slots other)
    (tasks : ∀ other, next.spawned other = true → (next.slots other).standing = .retiring) :
    Settled dialect next := by
  have find_eq : ∀ other, next.find other = if other = key then none else pins.find other := by
    intro other
    rw [find_of_table table, find_removeEntry]
  have different : ∀ other place, other ≠ key → pins.find other = some place → place ≠ slot := by
    intro other place other_key found_other same
    rw [same] at found_other
    exact other_key (settled.key_eq found found_other)
  refine ⟨by rw [speaks, settled.speaks], ?_, ?_, tasks, ?_, ?_⟩
  · intro other place found_other
    rw [find_eq] at found_other
    split at found_other
    · cases found_other
    · rename_i other_key
      rw [others place (different other place other_key found_other)]
      exact settled.keyed other place found_other
  · intro other later
    rw [made] at later
    have mapped := (settled.keyed key slot found).2
    have lower := settled.lt_made (by rw [mapped]; simp)
    rw [others other (by omega)]
    exact settled.unmade other later
  · intro other conn debt
    have other_key : other ≠ key := by
      intro same
      rw [same, free] at debt
      cases debt
    rw [owed other other_key] at debt
    obtain ⟨place, found_other, flags⟩ := settled.debts other conn debt
    refine ⟨place, ?_, ?_⟩
    · rw [find_eq, if_neg other_key]
      exact found_other
    · rw [others place (different other place other_key found_other)]
      exact flags
  · intro other place found_other stateful
    rw [find_eq] at found_other
    split at found_other
    · cases found_other
    · rename_i other_key
      rw [others place (different other place other_key found_other)] at stateful
      rw [owed other other_key]
      exact settled.clean other place found_other stateful

/-- A session that holds no state is retired to make room. -/
theorem Settled.evict (settled : Settled dialect pins) (found : pins.find key = some slot)
    (stateless : (pins.slots slot).state.stateful = false) :
    Settled dialect ((pins.removeEntry key).spawnRetire slot) := by
  have others : ∀ other, other ≠ slot →
      ((pins.removeEntry key).spawnRetire slot).slots other = pins.slots other :=
    fun other different => setStanding_of_ne (pins.removeEntry key) different _
  have tasks : ∀ other, ((pins.removeEntry key).spawnRetire slot).spawned other = true →
      (((pins.removeEntry key).spawnRetire slot).slots other).standing = .retiring := by
    intro other spawned
    change Function.update pins.spawned slot true other = true at spawned
    by_cases same : other = slot
    · rw [same]
      show (((pins.removeEntry key).setStanding slot .retiring).slots slot).standing = _
      rw [setStanding_self]
    · rw [Function.update_of_ne same] at spawned
      rw [others other same]
      exact settled.tasks other spawned
  exact settled.takeOut found (settled.owes_nothing found stateless) rfl rfl rfl
    (fun _ _ => rfl) others tasks

/-- All debts are forgotten with all slots. -/
theorem Settled.drained (settled : Settled dialect pins) (thread : Nat) :
    Settled dialect (pins.drained thread) where
  speaks := settled.speaks
  keyed _ _ found := nomatch found
  unmade slot later := by
    have kept := settled.unmade slot later
    show (if (pins.slots slot).standing = .mapped then
      { pins.slots slot with standing := .leaving thread } else pins.slots slot).standing = _
    rw [if_neg (by rw [kept]; simp)]
    exact kept
  tasks slot spawned := by
    have kept := settled.tasks slot spawned
    show (if (pins.slots slot).standing = .mapped then
      { pins.slots slot with standing := .leaving thread } else pins.slots slot).standing = _
    rw [if_neg (by rw [kept]; simp)]
    exact kept
  debts _ _ owed := nomatch owed
  clean _ _ found := nomatch found

end Pins

end DbFree.Pooling
