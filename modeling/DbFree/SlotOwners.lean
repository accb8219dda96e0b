import DbFree.PinTable

/- What each thread has of the table of sessions (the slot it waits for, the lock it holds,
the slots it sees to), and that the operations of other threads leave it alone. -/
namespace DbFree.Pooling

namespace Pins

/-- What a thread waits for, holds and has in hand. -/
structure Local (thread : Nat) (waits holds : Option Nat) (hand : List Nat) (pins : Pins) :
    Prop where
  waits : pins.waiting thread = waits
  holds : ∀ slot, (pins.slots slot).holder = some thread ↔ holds = some slot
  hand : ∀ slot, (pins.slots slot).standing = .leaving thread ↔ slot ∈ hand

/-- What a step of another thread leaves to a thread. -/
structure Leaves (thread : Nat) (pins next : Pins) : Prop where
  waiting : next.waiting thread = pins.waiting thread
  holders : ∀ slot, (next.slots slot).holder = some thread ↔
    (pins.slots slot).holder = some thread
  standings : ∀ slot, (next.slots slot).standing = .leaving thread ↔
    (pins.slots slot).standing = .leaving thread
  session : ∀ slot, (pins.slots slot).holder = some thread →
    (next.slots slot).state = (pins.slots slot).state
  live : ∀ slot, (pins.slots slot).holder = some thread →
    (pins.slots slot).standing ≠ .retired → (next.slots slot).standing ≠ .retired
  alone : ∀ slot, (pins.slots slot).standing = .leaving thread →
    (∀ runner, pins.waiting runner ≠ some slot) → ∀ runner, next.waiting runner ≠ some slot

theorem Leaves.same {thread : Nat} {pins next : Pins} (slots : next.slots = pins.slots)
    (waiting : next.waiting = pins.waiting) : Leaves thread pins next where
  waiting := by rw [waiting]
  holders slot := by rw [slots]
  standings slot := by rw [slots]
  session slot _ := by rw [slots]
  live slot _ kept := by
    rw [slots]
    exact kept
  alone slot _ nobody := by
    rw [waiting]
    exact nobody

theorem Leaves.trans {thread : Nat} {first second third : Pins}
    (one : Leaves thread first second) (two : Leaves thread second third) :
    Leaves thread first third where
  waiting := by rw [two.waiting, one.waiting]
  holders slot := by rw [two.holders, one.holders]
  standings slot := by rw [two.standings, one.standings]
  session slot own := by rw [two.session slot ((one.holders slot).mpr own), one.session slot own]
  live slot own kept := two.live slot ((one.holders slot).mpr own) (one.live slot own kept)
  alone slot leaving nobody :=
    two.alone slot ((one.standings slot).mpr leaving) (one.alone slot leaving nobody)

/-- A change of a slot that is no business of the thread. -/
theorem leaves_modify {slot thread : Nat} {pins : Pins} {change : Slot → Slot}
    (holder : (change (pins.slots slot)).holder = some thread ↔
      (pins.slots slot).holder = some thread)
    (standing : (change (pins.slots slot)).standing = .leaving thread ↔
      (pins.slots slot).standing = .leaving thread)
    (session : (pins.slots slot).holder = some thread →
      (change (pins.slots slot)).state = (pins.slots slot).state)
    (live : (pins.slots slot).holder = some thread → (pins.slots slot).standing ≠ .retired →
      (change (pins.slots slot)).standing ≠ .retired) :
    Leaves thread pins (pins.modify slot change) where
  waiting := rfl
  holders place := by
    by_cases here : place = slot
    · rw [here, modify_self]
      exact holder
    · rw [modify_of_ne pins here]
  standings place := by
    by_cases here : place = slot
    · rw [here, modify_self]
      exact standing
    · rw [modify_of_ne pins here]
  session place own := by
    by_cases here : place = slot
    · rw [here] at own
      rw [here, modify_self]
      exact session own
    · rw [modify_of_ne pins here]
  live place own kept := by
    by_cases here : place = slot
    · rw [here] at own kept
      rw [here, modify_self]
      exact live own kept
    · rw [modify_of_ne pins here]
      exact kept
  alone _ _ nobody := nobody

/-- A change of a slot whose lock another thread has. -/
theorem leaves_held {slot thread other : Nat} {pins : Pins} {change : Slot → Slot}
    (different : other ≠ thread) (held : (pins.slots slot).holder = some other)
    (holder : (change (pins.slots slot)).holder ≠ some thread)
    (standing : (change (pins.slots slot)).standing = .leaving thread ↔
      (pins.slots slot).standing = .leaving thread) :
    Leaves thread pins (pins.modify slot change) := by
  have not_own : (pins.slots slot).holder ≠ some thread := by
    rw [held]
    exact fun same => different (Option.some.inj same)
  apply leaves_modify
  · exact ⟨fun own => absurd own holder, fun own => absurd own not_own⟩
  · exact standing
  · exact fun own => absurd own not_own
  · exact fun own => absurd own not_own

theorem leaves_setState {slot thread other : Nat} {pins : Pins} {change : SlotState → SlotState}
    (different : other ≠ thread) (held : (pins.slots slot).holder = some other) :
    Leaves thread pins (pins.setState slot change) := by
  apply leaves_held different held
  · show (pins.slots slot).holder ≠ some thread
    rw [held]
    exact fun same => different (Option.some.inj same)
  · exact Iff.rfl

theorem guarded_eq {α : Type} {pins next : Pins} {thread slot : Nat} {result : α × Pins}
    {answer : α} (performed : pins.guarded thread slot result = some (answer, next)) :
    (pins.slots slot).holder = some thread ∧ result = (answer, next) := by
  simpa [guarded] using performed

theorem inHand_eq {α : Type} {pins next : Pins} {thread slot : Nat} {result : α × Pins}
    {answer : α} (performed : pins.inHand thread slot result = some (answer, next)) :
    (pins.slots slot).standing = .leaving thread ∧ result = (answer, next) := by
  simpa [inHand] using performed

theorem locked_eq {pins next : Pins} {thread slot : Nat}
    (performed : pins.locked thread slot = some next) :
    (pins.slots slot).holder = none ∧ (pins.slots slot).standing ≠ .unmade ∧
      next = pins.modify slot fun s => { s with holder := some thread } := by
  unfold locked at performed
  split at performed
  · rename_i free
    exact ⟨free.1, free.2, (Option.some.inj performed).symm⟩
  · cases performed

theorem leaves_locked {pins next : Pins} {thread other slot : Nat} (different : other ≠ thread)
    (performed : pins.locked other slot = some next) : Leaves thread pins next := by
  obtain ⟨free, -, next_eq⟩ := locked_eq performed
  rw [next_eq]
  apply leaves_modify
  · rw [free]
    simp [different]
  · exact Iff.rfl
  · exact fun _ => rfl
  · exact fun _ kept => kept

theorem leaves_waits {pins : Pins} {thread other slot : Nat} (different : other ≠ thread)
    (mapped : (pins.slots slot).standing = .mapped) :
    Leaves thread pins
      { pins with waiting := Function.update pins.waiting other (some slot) } where
  waiting := Function.update_of_ne (Ne.symm different) ..
  holders _ := Iff.rfl
  standings _ := Iff.rfl
  session _ _ := rfl
  live _ _ kept := kept
  alone place leaving nobody := by
    intro runner
    show Function.update pins.waiting other (some slot) runner ≠ some place
    by_cases same : runner = other
    · rw [same, Function.update_self]
      intro here
      cases here
      rw [mapped] at leaving
      cases leaving
    · rw [Function.update_of_ne same]
      exact nobody runner

theorem leaves_stops {pins : Pins} {thread other : Nat} (different : other ≠ thread) :
    Leaves thread pins { pins with waiting := Function.update pins.waiting other none } where
  waiting := Function.update_of_ne (Ne.symm different) ..
  holders _ := Iff.rfl
  standings _ := Iff.rfl
  session _ _ := rfl
  live _ _ kept := kept
  alone place _ nobody := by
    intro runner
    show Function.update pins.waiting other none runner ≠ some place
    by_cases same : runner = other
    · rw [same, Function.update_self]
      exact fun here => nomatch here
    · rw [Function.update_of_ne same]
      exact nobody runner

theorem leaves_insertSlot {pins : Pins} (inv : pins.Inv) {thread other : Nat}
    (different : other ≠ thread) (key : Text) (now : Nat) :
    Leaves thread pins (pins.insertSlot other key now) := by
  have unmade : (pins.slots pins.made).standing = .unmade :=
    (inv.unmade pins.made).mpr (Nat.le_refl _)
  have blank := inv.blank pins.made unmade
  have made : Leaves thread pins (pins.modify pins.made fun _ => .new key now) := by
    apply leaves_modify
    · rw [blank]
      exact Iff.rfl
    · rw [unmade]
      simp [Slot.new]
    · rw [blank]
      intro own
      cases own
    · rw [blank]
      intro own
      cases own
  apply made.trans
  have mapped : ((pins.modify pins.made fun _ => .new key now).slots pins.made).standing =
      .mapped := by
    rw [modify_self]
    rfl
  exact (leaves_waits different mapped).trans
    (.same rfl rfl)

theorem leaves_restand {pins : Pins} {slot thread : Nat} {standing : Standing}
    (was : (pins.slots slot).standing ≠ .leaving thread) (becomes : standing ≠ .leaving thread)
    (live : standing ≠ .retired) : Leaves thread pins (pins.setStanding slot standing) := by
  apply leaves_modify
  · exact Iff.rfl
  · exact ⟨fun here => absurd here becomes, fun here => absurd here was⟩
  · exact fun _ => rfl
  · exact fun _ _ => live

theorem leaves_drained {pins : Pins} {thread other : Nat} (different : other ≠ thread) :
    Leaves thread pins (pins.drained other) := by
  have slots : ∀ slot, (pins.drained other).slots slot =
      if (pins.slots slot).standing = .mapped then
        { pins.slots slot with standing := .leaving other } else pins.slots slot := fun _ => rfl
  refine ⟨rfl, fun slot => ?_, fun slot => ?_, fun slot _ => ?_, fun slot _ kept => ?_,
    fun _ _ nobody => nobody⟩
  · rw [slots]
    split <;> rfl
  · rw [slots]
    split <;> simp_all
  · rw [slots]
    split <;> rfl
  · rw [slots]
    split <;> simp_all

theorem leaves_takeSlot {pins next : Pins} (inv : pins.Inv) {thread other : Nat}
    (different : other ≠ thread) {key : Text} {answers : Answers} {answer : Except AppError Nat}
    (performed : pins.takeSlot other key answers = some (answer, next)) :
    Leaves thread pins next := by
  unfold takeSlot at performed
  split at performed
  · rename_i slot found
    cases performed
    have mapped := (inv.keyed (key, slot) (find_mem found)).2
    have touched : Leaves thread pins
        (pins.modify slot fun s => { s with touched := answers.now }) :=
      leaves_modify Iff.rfl Iff.rfl (fun _ => rfl) fun _ kept => kept
    apply touched.trans
    apply leaves_waits different
    rw [modify_self]
    exact mapped
  · split at performed
    · split at performed
      · cases performed
        exact .same rfl rfl
      · split at performed
        · rename_i old found
          split at performed
          · cases performed
            have mem := find_mem found
            have mapped := (inv.keyed (answers.victim, old) mem).2
            have out : Inv ((pins.removeEntry answers.victim).spawnRetire old) :=
              inv.takeOut mem (by simp) ⟨by simp, by simp⟩ (tasks_update (by simp))
            have retires : Leaves thread (pins.removeEntry answers.victim)
                ((pins.removeEntry answers.victim).setStanding old .retiring) := by
              apply leaves_restand _ (by simp) (by simp)
              show (pins.slots old).standing ≠ _
              rw [mapped]
              simp
            have gone : Leaves thread pins
                ((pins.removeEntry answers.victim).setStanding old .retiring) :=
              (Leaves.same rfl rfl : Leaves thread pins (pins.removeEntry answers.victim)).trans
                retires
            apply gone.trans
            have inserted := leaves_insertSlot out different key answers.now
            have spawned : Leaves thread ((pins.removeEntry answers.victim).setStanding old .retiring)
                ((pins.removeEntry answers.victim).spawnRetire old) := .same rfl rfl
            exact spawned.trans inserted
          · cases performed
        · cases performed
    · cases performed
      exact leaves_insertSlot inv different key answers.now

theorem leaves_spawnRetire {pins : Pins} {slot thread other : Nat} (different : other ≠ thread)
    (own : (pins.slots slot).standing = .leaving other) :
    Leaves thread pins (pins.spawnRetire slot) := by
  have retires : Leaves thread pins (pins.setStanding slot .retiring) := by
    apply leaves_restand _ (by simp) (by simp)
    rw [own]
    exact fun same => different (Standing.leaving.inj same)
  exact retires.trans (.same rfl rfl)

theorem leaves_board {pins : Pins} (inv : pins.Inv) {task thread other : Nat}
    (different : other ≠ thread) (spawned : pins.spawned task = true) :
    Leaves thread pins { pins.setStanding task (.leaving other) with
      spawned := Function.update pins.spawned task false } := by
  have boards : Leaves thread pins (pins.setStanding task (.leaving other)) := by
    apply leaves_restand _ _ (by simp)
    · rw [(inv.tasks task).mp spawned]
      simp
    · exact fun same => different (Standing.leaving.inj same)
  exact boards.trans (.same rfl rfl)

theorem leaves_remove {pins : Pins} (inv : pins.Inv) {thread other slot : Nat} {key : Text}
    (different : other ≠ thread) (found : pins.find key = some slot) :
    Leaves thread pins
      (((pins.removeEntry key).setStanding slot (.leaving other)).forget key) := by
  have removes : Leaves thread (pins.removeEntry key)
      ((pins.removeEntry key).setStanding slot (.leaving other)) := by
    apply leaves_restand _ _ (by simp)
    · show (pins.slots slot).standing ≠ _
      rw [(inv.keyed (key, slot) (find_mem found)).2]
      simp
    · exact fun same => different (Standing.leaving.inj same)
  exact ((Leaves.same rfl rfl : Leaves thread pins (pins.removeEntry key)).trans removes).trans
    (.same rfl rfl)

theorem leaves_openOn {pins : Pins} {thread other slot : Nat} (different : other ≠ thread)
    (held : (pins.slots slot).holder = some other) : Leaves thread pins (pins.openOn slot) := by
  have opens : Leaves thread (pins.touchConn slot)
      ((pins.touchConn slot).setState slot fun s => { s with conn := some pins.opened }) :=
    leaves_setState different held
  exact ((Leaves.same rfl rfl : Leaves thread pins (pins.touchConn slot)).trans opens).trans
    (.same rfl rfl)

theorem leaves_sendOn {pins : Pins} (thread slot : Nat) (sql : Text) :
    Leaves thread pins (pins.sendOn slot sql) := by
  unfold sendOn
  cases (pins.slots slot).state.conn with
  | none => exact .same rfl rfl
  | some conn => exact .same rfl rfl

theorem leaves_clearFlags {pins : Pins} {thread other slot : Nat} (telling : Telling)
    (different : other ≠ thread) (held : (pins.slots slot).holder = some other) :
    Leaves thread pins (pins.clearFlags slot telling) := by
  have clears : Leaves thread pins
      (pins.setState slot fun s => { s with unannouncedLoss := false, stateful := false }) :=
    leaves_setState different held
  cases telling with
  | nothing => exact clears
  | expired => exact clears.trans (.same rfl rfl)
  | lost => exact clears.trans (.same rfl rfl)

/-- An operation leaves to the other threads what is theirs. -/
theorem exec_leaves {pins next : Pins} (inv : pins.Inv) {thread other : Nat}
    (different : other ≠ thread) {op : PinOp} {answers : Answers} {answer : op.Answer}
    (performed : exec other pins op answers = some (answer, next)) : Leaves thread pins next := by
  cases op with
  | slot key => exact leaves_takeSlot inv different performed
  | lock slot =>
    obtain ⟨locked, gets, done⟩ := Option.map_eq_some_iff.mp performed
    cases done
    exact (leaves_locked different gets).trans (leaves_stops different)
  | unlock slot =>
    obtain ⟨held, done⟩ := guarded_eq performed
    cases done
    exact leaves_held different held (by simp) Iff.rfl
  | state slot =>
    obtain ⟨-, done⟩ := guarded_eq performed
    cases done
    exact .same rfl rfl
  | probeDue slot =>
    obtain ⟨-, done⟩ := guarded_eq performed
    cases done
    exact .same rfl rfl
  | alive slot =>
    obtain ⟨-, done⟩ := guarded_eq performed
    cases done
    exact .same rfl rfl
  | closeConn slot =>
    obtain ⟨held, done⟩ := guarded_eq performed
    cases done
    exact leaves_setState different held
  | setLoss slot =>
    obtain ⟨held, done⟩ := guarded_eq performed
    cases done
    exact leaves_setState different held
  | clearFlags slot telling =>
    obtain ⟨held, done⟩ := guarded_eq performed
    cases done
    exact leaves_clearFlags telling different held
  | openConn slot =>
    rw [exec] at performed
    split at performed
    · obtain ⟨-, done⟩ := guarded_eq performed
      cases done
      exact .same rfl rfl
    · obtain ⟨held, done⟩ := guarded_eq performed
      cases done
      exact leaves_openOn different held
  | setStateful slot =>
    obtain ⟨held, done⟩ := guarded_eq performed
    cases done
    exact leaves_setState different held
  | send slot sql maxRows =>
    obtain ⟨-, done⟩ := guarded_eq performed
    cases done
    exact leaves_sendOn thread slot sql
  | used slot =>
    obtain ⟨held, done⟩ := guarded_eq performed
    cases done
    apply leaves_held different held
    · show (pins.slots slot).holder ≠ some thread
      rw [held]
      exact fun same => different (Option.some.inj same)
    · exact Iff.rfl
  | remove key =>
    rw [exec] at performed
    split at performed
    · rename_i slot found
      cases performed
      exact leaves_remove inv different found
    · cases performed
      exact .same rfl rfl
  | drain =>
    cases performed
    exact leaves_drained different
  | retire slot =>
    obtain ⟨own, done⟩ := inHand_eq performed
    cases done
    exact leaves_spawnRetire different own
  | board =>
    rw [exec] at performed
    split at performed
    · rename_i spawned
      cases performed
      exact leaves_board inv different spawned
    · cases performed
  | lockRemoved slot =>
    obtain ⟨result, gets, taken⟩ := Option.bind_eq_some_iff.mp performed
    obtain ⟨locked, gets_lock, rfl⟩ := Option.map_eq_some_iff.mp gets
    obtain ⟨-, done⟩ := inHand_eq taken
    cases done
    exact leaves_locked different gets_lock
  | lockInTime slot =>
    rw [exec] at performed
    split at performed
    · obtain ⟨result, gets, taken⟩ := Option.bind_eq_some_iff.mp performed
      obtain ⟨locked, gets_lock, rfl⟩ := Option.map_eq_some_iff.mp gets
      obtain ⟨-, done⟩ := inHand_eq taken
      cases done
      exact leaves_locked different gets_lock
    · cases performed
      exact .same rfl rfl
  | release slot =>
    obtain ⟨⟨_, _⟩, released, taken⟩ := Option.bind_eq_some_iff.mp performed
    obtain ⟨held, result_eq⟩ := guarded_eq released
    obtain ⟨own, done⟩ := inHand_eq taken
    cases result_eq
    cases done
    apply leaves_held different held (by simp)
    rw [own]
    simp [different]
  | snapshot =>
    cases performed
    exact .same rfl rfl
  | tryLock slot =>
    rw [exec] at performed
    split at performed
    · rename_i locked gets_lock
      cases performed
      exact leaves_locked different gets_lock
    · cases performed
      exact .same rfl rfl
  | idle slot =>
    obtain ⟨-, done⟩ := guarded_eq performed
    cases done
    exact .same rfl rfl

end Pins

end DbFree.Pooling
