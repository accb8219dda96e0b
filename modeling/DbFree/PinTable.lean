import DbFree.Pins

/- What holds of the table of sessions whoever takes slots in and out of it: a slot in the
table has the latest connection of its key, and only slots not yet retired hold any. -/
namespace DbFree.Pooling

namespace Pins

/-- Of two connections of one key the older one is not in the table. -/
def LatestMapped (pins : Pins) : Prop :=
  ∀ slot other conn newer, slot ≠ other → (pins.slots slot).state.conn = some conn →
    (pins.slots other).state.conn = some newer → conn ≠ newer ∧
      ((pins.slots slot).key = (pins.slots other).key → conn < newer →
        (pins.slots slot).standing ≠ .mapped)

structure Inv (pins : Pins) : Prop where
  keyed : ∀ entry ∈ pins.table,
    (pins.slots entry.2).key = entry.1 ∧ (pins.slots entry.2).standing = .mapped
  listed : ∀ slot, (pins.slots slot).standing = .mapped → ((pins.slots slot).key, slot) ∈ pins.table
  distinct : (pins.table.map Prod.fst).Nodup
  unmade : ∀ slot, (pins.slots slot).standing = .unmade ↔ pins.made ≤ slot
  blank : ∀ slot, (pins.slots slot).standing = .unmade → (pins.slots slot).holder = none
  numbered : ∀ slot conn, (pins.slots slot).state.conn = some conn → conn < pins.opened
  latest : pins.LatestMapped
  open_live : ∀ slot, (pins.slots slot).state.conn ≠ none →
    (pins.slots slot).standing ≠ .retired ∧ (pins.slots slot).standing ≠ .unmade
  waiting_live : ∀ runner slot, pins.waiting runner = some slot →
    (pins.slots slot).standing ≠ .retired ∧ (pins.slots slot).standing ≠ .unmade
  tasks : ∀ slot, pins.spawned slot = true ↔ (pins.slots slot).standing = .retiring
  well_used : pins.misused = false

theorem new_inv (limits : Limits) (dialect : Dialect) : (new limits dialect).Inv where
  keyed := by simp [new]
  listed := by simp [new, Slot.unmade]
  distinct := by simp [new]
  unmade := by simp [new, Slot.unmade]
  blank := by simp [new, Slot.unmade]
  numbered := by simp [new, Slot.unmade]
  latest := by simp [LatestMapped, new, Slot.unmade]
  open_live := by simp [new, Slot.unmade]
  waiting_live := by simp [new]
  tasks := by simp [new, Slot.unmade]
  well_used := rfl

@[simp]
theorem modify_self (pins : Pins) (slot : Nat) (change : Slot → Slot) :
    (pins.modify slot change).slots slot = change (pins.slots slot) := by
  exact Function.update_self ..

theorem modify_of_ne (pins : Pins) {slot other : Nat} (different : other ≠ slot)
    (change : Slot → Slot) : (pins.modify slot change).slots other = pins.slots other := by
  exact Function.update_of_ne different ..

/-- The two differ in the session of one slot at most, and in what was noted about it. -/
structure SameShape (slot : Nat) (pins next : Pins) : Prop where
  table : next.table = pins.table
  made : next.made = pins.made
  waiting : next.waiting = pins.waiting
  spawned : next.spawned = pins.spawned
  others : ∀ other, other ≠ slot → next.slots other = pins.slots other
  key : (next.slots slot).key = (pins.slots slot).key
  standing : (next.slots slot).standing = (pins.slots slot).standing

theorem SameShape.refl (slot : Nat) (pins : Pins) : SameShape slot pins pins :=
  ⟨rfl, rfl, rfl, rfl, fun _ _ => rfl, rfl, rfl⟩

theorem sameShape_modify (pins : Pins) {slot : Nat} {change : Slot → Slot}
    (key : (change (pins.slots slot)).key = (pins.slots slot).key)
    (standing : (change (pins.slots slot)).standing = (pins.slots slot).standing) :
    SameShape slot pins (pins.modify slot change) := by
  refine ⟨rfl, rfl, rfl, rfl, fun other different => modify_of_ne pins different _, ?_, ?_⟩
  · rw [modify_self]
    exact key
  · rw [modify_self]
    exact standing

theorem SameShape.keys {slot : Nat} {pins next : Pins} (same : SameShape slot pins next)
    (other : Nat) : (next.slots other).key = (pins.slots other).key := by
  by_cases here : other = slot
  · rw [here]
    exact same.key
  · rw [same.others other here]

theorem SameShape.standings {slot : Nat} {pins next : Pins} (same : SameShape slot pins next)
    (other : Nat) : (next.slots other).standing = (pins.slots other).standing := by
  by_cases here : other = slot
  · rw [here]
    exact same.standing
  · rw [same.others other here]

/-- A connection may be opened on the slot. -/
structure Opens (pins : Pins) (slot : Nat) : Prop where
  live : (pins.slots slot).standing ≠ .retired ∧ (pins.slots slot).standing ≠ .unmade
  alone : (pins.slots slot).standing ≠ .mapped → ∀ other, (pins.slots other).standing = .mapped →
    (pins.slots other).key = (pins.slots slot).key → (pins.slots other).state.conn = none

theorem Inv.same_entry {pins : Pins} (inv : pins.Inv) {key : Text} {first second : Nat}
    (one : (key, first) ∈ pins.table) (other : (key, second) ∈ pins.table) : first = second :=
  congrArg Prod.snd (List.inj_on_of_nodup_map inv.distinct one other rfl)

/-- Where a connection may be opened, the table has no other one of the key. -/
theorem Inv.opens_alone {pins : Pins} (inv : pins.Inv) {slot other : Nat}
    (opens : pins.Opens slot) (mapped : (pins.slots other).standing = .mapped)
    (keys : (pins.slots other).key = (pins.slots slot).key)
    (has : (pins.slots other).state.conn ≠ none) : other = slot := by
  by_cases here : (pins.slots slot).standing = .mapped
  · have one := inv.listed other mapped
    rw [keys] at one
    exact inv.same_entry one (inv.listed slot here)
  · exact absurd (opens.alone here other mapped keys) has

theorem Inv.of_sameShape {slot : Nat} {pins next : Pins} (inv : pins.Inv)
    (same : SameShape slot pins next) (well_used : next.misused = false)
    (opened : pins.opened ≤ next.opened)
    (made : (pins.slots slot).standing = .unmade → (next.slots slot).holder = none)
    (conns : ∀ conn, (next.slots slot).state.conn = some conn →
      (pins.slots slot).state.conn = some conn ∨
        pins.opened ≤ conn ∧ conn < next.opened ∧ pins.Opens slot) :
    next.Inv where
  keyed entry mem := by
    rw [same.table] at mem
    rw [same.keys, same.standings]
    exact inv.keyed entry mem
  listed other mapped := by
    rw [same.standings] at mapped
    rw [same.keys, same.table]
    exact inv.listed other mapped
  distinct := by
    rw [same.table]
    exact inv.distinct
  unmade other := by
    rw [same.standings, same.made]
    exact inv.unmade other
  blank other unmade := by
    rw [same.standings] at unmade
    by_cases here : other = slot
    · rw [here] at unmade ⊢
      exact made unmade
    · rw [same.others other here]
      exact inv.blank other unmade
  numbered other conn has := by
    by_cases here : other = slot
    · rw [here] at has
      cases conns conn has with
      | inl before => exact Nat.lt_of_lt_of_le (inv.numbered slot conn before) opened
      | inr fresh => exact fresh.2.1
    · rw [same.others other here] at has
      exact Nat.lt_of_lt_of_le (inv.numbered other conn has) opened
  latest first second conn newer different has has_newer := by
    rw [same.keys, same.keys, same.standings]
    by_cases first_here : first = slot
    · rw [first_here] at different has ⊢
      rw [same.others second (Ne.symm different)] at has_newer
      cases conns conn has with
      | inl before => exact inv.latest slot second conn newer different before has_newer
      | inr fresh =>
        have older := inv.numbered second newer has_newer
        have fresh_lower := fresh.1
        exact ⟨by omega, fun _ _ => by omega⟩
    · rw [same.others first first_here] at has
      by_cases second_here : second = slot
      · rw [second_here] at different has_newer ⊢
        cases conns newer has_newer with
        | inl before => exact inv.latest first slot conn newer different has before
        | inr fresh =>
          have older := inv.numbered first conn has
          refine ⟨fun equal => ?_, fun keys _ mapped => ?_⟩
          · have fresh_lower := fresh.1
            omega
          · exact different (inv.opens_alone fresh.2.2 mapped keys (by rw [has]; simp))
      · rw [same.others second second_here] at has_newer
        exact inv.latest first second conn newer different has has_newer
  open_live other opened := by
    rw [same.standings]
    by_cases here : other = slot
    · rw [here] at opened ⊢
      obtain ⟨conn, has⟩ := Option.ne_none_iff_exists'.mp opened
      cases conns conn has with
      | inl before => exact inv.open_live slot (by rw [before]; simp)
      | inr fresh => exact fresh.2.2.live
    · rw [same.others other here] at opened
      exact inv.open_live other opened
  waiting_live runner other waits := by
    rw [same.waiting] at waits
    rw [same.standings]
    exact inv.waiting_live runner other waits
  tasks other := by
    rw [same.spawned, same.standings]
    exact inv.tasks other
  well_used := well_used

theorem find_mem {pins : Pins} {key : Text} {slot : Nat} (found : pins.find key = some slot) :
    (key, slot) ∈ pins.table := by
  obtain ⟨entry, here, slot_eq⟩ := Option.map_eq_some_iff.mp found
  have key_eq : entry.1 = key := by simpa using List.find?_some here
  rw [← key_eq, ← slot_eq]
  exact List.mem_of_find?_eq_some here

theorem not_mem_of_find {pins : Pins} {key : Text} (missing : pins.find key = none) (slot : Nat) :
    (key, slot) ∉ pins.table := by
  intro mem
  have none_found := Option.map_eq_none_iff.mp missing
  have other := List.find?_eq_none.mp none_found (key, slot) mem
  simp at other

theorem Inv.waits {pins : Pins} (inv : pins.Inv) {runner slot : Nat}
    (live : (pins.slots slot).standing ≠ .retired ∧ (pins.slots slot).standing ≠ .unmade) :
    Inv { pins with waiting := Function.update pins.waiting runner (some slot) } := by
  refine { inv with waiting_live := ?_ }
  intro other place waits
  change Function.update pins.waiting runner (some slot) other = some place at waits
  by_cases same : other = runner
  · rw [same, Function.update_self] at waits
    cases waits
    exact live
  · rw [Function.update_of_ne same] at waits
    exact inv.waiting_live other place waits

theorem Inv.stops_waiting {pins : Pins} (inv : pins.Inv) (runner : Nat) :
    Inv { pins with waiting := Function.update pins.waiting runner none } := by
  refine { inv with waiting_live := ?_ }
  intro other place waits
  change Function.update pins.waiting runner none other = some place at waits
  by_cases same : other = runner
  · rw [same, Function.update_self] at waits
    cases waits
  · rw [Function.update_of_ne same] at waits
    exact inv.waiting_live other place waits

theorem Inv.made_of {pins : Pins} (inv : pins.Inv) {slot : Nat}
    (made : (pins.slots slot).standing ≠ .unmade) : slot ≠ pins.made := by
  intro same
  exact made ((inv.unmade slot).mpr (Nat.le_of_eq same.symm))

theorem insertSlot_self (pins : Pins) (thread : Nat) (key : Text) (now : Nat) :
    (pins.insertSlot thread key now).slots pins.made = .new key now := by
  exact Function.update_self ..

theorem insertSlot_of_ne (pins : Pins) (thread : Nat) (key : Text) (now : Nat) {slot : Nat}
    (other : slot ≠ pins.made) :
    (pins.insertSlot thread key now).slots slot = pins.slots slot := by
  exact Function.update_of_ne other ..

theorem Inv.insertSlot {pins : Pins} (inv : pins.Inv) (thread : Nat) {key : Text} (now : Nat)
    (missing : ∀ slot, (key, slot) ∉ pins.table) : (pins.insertSlot thread key now).Inv where
  keyed entry mem := by
    cases List.mem_cons.mp mem with
    | inl new =>
      rw [new, insertSlot_self]
      exact ⟨rfl, rfl⟩
    | inr old =>
      have kept := inv.keyed entry old
      rw [insertSlot_of_ne pins thread key now (inv.made_of (by rw [kept.2]; simp))]
      exact kept
  listed slot mapped := by
    by_cases new : slot = pins.made
    · rw [new, insertSlot_self]
      exact List.mem_cons_self
    · rw [insertSlot_of_ne pins thread key now new] at mapped ⊢
      exact List.mem_cons_of_mem _ (inv.listed slot mapped)
  distinct := by
    show ((key, pins.made) :: pins.table).map Prod.fst |>.Nodup
    rw [List.map_cons, List.nodup_cons]
    refine ⟨fun mem => ?_, inv.distinct⟩
    obtain ⟨entry, here, same⟩ := List.mem_map.mp mem
    apply missing entry.2
    rw [← show entry.1 = key from same]
    exact here
  unmade slot := by
    show _ ↔ pins.made + 1 ≤ slot
    by_cases new : slot = pins.made
    · rw [new, insertSlot_self]
      simp [Slot.new]
    · rw [insertSlot_of_ne pins thread key now new, inv.unmade slot]
      omega
  blank slot unmade := by
    by_cases new : slot = pins.made
    · rw [new, insertSlot_self]
      rfl
    · rw [insertSlot_of_ne pins thread key now new] at unmade ⊢
      exact inv.blank slot unmade
  numbered slot conn has := by
    by_cases new : slot = pins.made
    · rw [new, insertSlot_self] at has
      cases has
    · rw [insertSlot_of_ne pins thread key now new] at has
      exact inv.numbered slot conn has
  latest slot other conn newer different has has_newer := by
    by_cases new : slot = pins.made
    · rw [new, insertSlot_self] at has
      cases has
    · rw [insertSlot_of_ne pins thread key now new] at has ⊢
      by_cases other_new : other = pins.made
      · rw [other_new, insertSlot_self] at has_newer
        cases has_newer
      · rw [insertSlot_of_ne pins thread key now other_new] at has_newer ⊢
        exact inv.latest slot other conn newer different has has_newer
  open_live slot opened := by
    by_cases new : slot = pins.made
    · rw [new, insertSlot_self] at opened
      exact absurd rfl opened
    · rw [insertSlot_of_ne pins thread key now new] at opened ⊢
      exact inv.open_live slot opened
  waiting_live runner slot waits := by
    change Function.update pins.waiting thread (some pins.made) runner = some slot at waits
    by_cases same : runner = thread
    · rw [same, Function.update_self] at waits
      cases waits
      rw [insertSlot_self]
      exact ⟨by simp [Slot.new], by simp [Slot.new]⟩
    · rw [Function.update_of_ne same] at waits
      have live := inv.waiting_live runner slot waits
      rw [insertSlot_of_ne pins thread key now (inv.made_of live.2)]
      exact live
  tasks slot := by
    show pins.spawned slot = true ↔ _
    by_cases new : slot = pins.made
    · rw [inv.tasks slot, (inv.unmade slot).mpr (Nat.le_of_eq new.symm), new, insertSlot_self]
      simp [Slot.new]
    · rw [insertSlot_of_ne pins thread key now new]
      exact inv.tasks slot
  well_used := inv.well_used

theorem setStanding_self (pins : Pins) (slot : Nat) (standing : Standing) :
    (pins.setStanding slot standing).slots slot = { pins.slots slot with standing } := by
  exact Function.update_self ..

theorem setStanding_of_ne (pins : Pins) {slot other : Nat} (different : other ≠ slot)
    (standing : Standing) : (pins.setStanding slot standing).slots other = pins.slots other := by
  exact Function.update_of_ne different ..

/-- The retire tasks after one of them is spawned, or begins. -/
theorem tasks_update {spawned : Nat → Bool} {slot : Nat} {standing : Standing} {value : Bool}
    (agrees : value = true ↔ standing = .retiring) (other : Nat) :
    Function.update spawned slot value other = true ↔
      other = slot ∧ standing = .retiring ∨ other ≠ slot ∧ spawned other = true := by
  by_cases same : other = slot
  · rw [same, Function.update_self]
    simp [agrees]
  · rw [Function.update_of_ne same]
    simp [same]

/-- The retire tasks when a slot that had none gets none. -/
theorem tasks_same {spawned : Nat → Bool} {slot : Nat} {standing : Standing}
    (was : spawned slot = false) (becomes : standing ≠ .retiring) (other : Nat) :
    spawned other = true ↔
      other = slot ∧ standing = .retiring ∨ other ≠ slot ∧ spawned other = true := by
  by_cases same : other = slot
  · rw [same]
    simp [was, becomes]
  · simp [same]

theorem Inv.no_task {pins : Pins} (inv : pins.Inv) {slot : Nat}
    (other : (pins.slots slot).standing ≠ .retiring) : pins.spawned slot = false := by
  have not_spawned := mt (inv.tasks slot).mp other
  simpa using not_spawned

/-- Sessions stay what they are when no slot comes into the table. -/
theorem Inv.latest_of {pins next : Pins} (inv : pins.Inv)
    (key : ∀ slot, (next.slots slot).key = (pins.slots slot).key)
    (state : ∀ slot, (next.slots slot).state = (pins.slots slot).state)
    (mapped : ∀ slot, (next.slots slot).standing = .mapped → (pins.slots slot).standing = .mapped) :
    next.LatestMapped := by
  intro slot other conn newer different has has_newer
  rw [state] at has has_newer
  rw [key, key]
  have kept := inv.latest slot other conn newer different has has_newer
  exact ⟨kept.1, fun keys older still => kept.2 keys older (mapped slot still)⟩

/-- A slot leaves the table, and someone is to see to it. -/
theorem Inv.takeOut {pins : Pins} (inv : pins.Inv) {key : Text} {slot : Nat}
    (mem : (key, slot) ∈ pins.table) {standing : Standing} (unmapped : standing ≠ .mapped)
    (live : standing ≠ .retired ∧ standing ≠ .unmade) {spawned : Nat → Bool}
    (tasks : ∀ other, spawned other = true ↔
      other = slot ∧ standing = .retiring ∨ other ≠ slot ∧ pins.spawned other = true) :
    Inv { (pins.removeEntry key).setStanding slot standing with spawned } := by
  have was := inv.keyed (key, slot) mem
  have old : ∀ other, other ≠ slot →
      ((pins.removeEntry key).setStanding slot standing).slots other = pins.slots other :=
    fun other different => setStanding_of_ne (pins.removeEntry key) different standing
  have self : ((pins.removeEntry key).setStanding slot standing).slots slot =
      { pins.slots slot with standing } := setStanding_self (pins.removeEntry key) slot standing
  have keys : ∀ other, (((pins.removeEntry key).setStanding slot standing).slots other).key =
      (pins.slots other).key := by
    intro other
    by_cases same : other = slot
    · rw [same, self]
    · rw [old other same]
  have states : ∀ other, (((pins.removeEntry key).setStanding slot standing).slots other).state =
      (pins.slots other).state := by
    intro other
    by_cases same : other = slot
    · rw [same, self]
    · rw [old other same]
  refine ⟨?_, ?_, ?_, ?_, ?_, ?_, ?_, ?_, ?_, ?_, inv.well_used⟩
  · intro entry kept
    obtain ⟨here, other_key⟩ := List.mem_filter.mp kept
    have other : entry.2 ≠ slot := by
      intro same
      have keys := (inv.keyed entry here).1
      rw [same, was.1] at keys
      exact absurd keys.symm (by simpa using other_key)
    rw [old entry.2 other]
    exact inv.keyed entry here
  · intro other mapped
    by_cases same : other = slot
    · rw [same, self] at mapped
      exact absurd mapped unmapped
    · rw [old other same] at mapped ⊢
      have listed := inv.listed other mapped
      refine List.mem_filter.mpr ⟨listed, ?_⟩
      have keys : (pins.slots other).key ≠ key := by
        intro same_key
        rw [same_key] at listed
        exact same (inv.same_entry listed mem)
      simpa using keys
  · exact inv.distinct.sublist (List.Sublist.map _ List.filter_sublist)
  · intro other
    show _ ↔ pins.made ≤ other
    by_cases same : other = slot
    · rw [same, self, ← inv.unmade slot]
      rw [was.2]
      simp [live.2]
    · rw [old other same]
      exact inv.unmade other
  · intro other unmade
    by_cases same : other = slot
    · rw [same, self] at unmade
      exact absurd unmade live.2
    · rw [old other same] at unmade ⊢
      exact inv.blank other unmade
  · intro other conn has
    rw [states] at has
    exact inv.numbered other conn has
  · apply inv.latest_of keys states
    intro other mapped
    by_cases same : other = slot
    · rw [same, self] at mapped
      exact absurd mapped unmapped
    · rw [old other same] at mapped
      exact mapped
  · intro other opened
    by_cases same : other = slot
    · rw [same, self]
      exact live
    · rw [old other same] at opened ⊢
      exact inv.open_live other opened
  · intro runner other waits
    by_cases same : other = slot
    · rw [same, self]
      exact live
    · rw [old other same]
      exact inv.waiting_live runner other waits
  · intro other
    show spawned other = true ↔ _
    rw [tasks other, inv.tasks other]
    by_cases same : other = slot
    · rw [same, self]
      simp
    · rw [old other same]
      simp [same]

/-- A slot that is out of the table changes hands. -/
theorem Inv.restand {pins : Pins} (inv : pins.Inv) {slot : Nat} {change : Slot → Slot}
    {spawned : Nat → Bool} (key : (change (pins.slots slot)).key = (pins.slots slot).key)
    (conn : (change (pins.slots slot)).state = (pins.slots slot).state)
    (was : (pins.slots slot).standing ≠ .mapped ∧ (pins.slots slot).standing ≠ .unmade)
    (becomes : (change (pins.slots slot)).standing ≠ .mapped ∧
      (change (pins.slots slot)).standing ≠ .unmade)
    (quiet : (change (pins.slots slot)).standing = .retired →
      (pins.slots slot).state.conn = none ∧ ∀ runner, pins.waiting runner ≠ some slot)
    (tasks : ∀ other, spawned other = true ↔
      other = slot ∧ (change (pins.slots slot)).standing = .retiring ∨
        other ≠ slot ∧ pins.spawned other = true) :
    Inv { pins.modify slot change with spawned } := by
  have old : ∀ other, other ≠ slot → (pins.modify slot change).slots other = pins.slots other :=
    fun other different => modify_of_ne pins different change
  have self := modify_self pins slot change
  have keys : ∀ other, ((pins.modify slot change).slots other).key = (pins.slots other).key := by
    intro other
    by_cases same : other = slot
    · rw [same, self]
      exact key
    · rw [old other same]
  have mapped : ∀ other, ((pins.modify slot change).slots other).standing = .mapped ↔
      (pins.slots other).standing = .mapped := by
    intro other
    by_cases same : other = slot
    · rw [same, self]
      simp [was.1, becomes.1]
    · rw [old other same]
  have states : ∀ other, ((pins.modify slot change).slots other).state =
      (pins.slots other).state := by
    intro other
    by_cases same : other = slot
    · rw [same, self]
      exact conn
    · rw [old other same]
  refine ⟨?_, ?_, inv.distinct, ?_, ?_, ?_, ?_, ?_, ?_, ?_, inv.well_used⟩
  · intro entry mem
    have kept := inv.keyed entry mem
    exact ⟨(keys entry.2).trans kept.1, (mapped entry.2).mpr kept.2⟩
  · intro other here
    show (((pins.modify slot change).slots other).key, other) ∈ pins.table
    rw [keys]
    exact inv.listed other ((mapped other).mp here)
  · intro other
    show ((pins.modify slot change).slots other).standing = _ ↔ pins.made ≤ other
    by_cases same : other = slot
    · rw [same, self, ← inv.unmade slot]
      simp [was.2, becomes.2]
    · rw [old other same]
      exact inv.unmade other
  · intro other unmade
    change ((pins.modify slot change).slots other).standing = _ at unmade
    show ((pins.modify slot change).slots other).holder = none
    by_cases same : other = slot
    · rw [same, self] at unmade
      exact absurd unmade becomes.2
    · rw [old other same] at unmade ⊢
      exact inv.blank other unmade
  · intro other conn has
    change ((pins.modify slot change).slots other).state.conn = _ at has
    rw [states] at has
    exact inv.numbered other conn has
  · exact inv.latest_of keys states fun other => (mapped other).mp
  · intro other opened
    change ((pins.modify slot change).slots other).state.conn ≠ none at opened
    show ((pins.modify slot change).slots other).standing ≠ _ ∧
      ((pins.modify slot change).slots other).standing ≠ _
    by_cases same : other = slot
    · rw [same, self] at opened ⊢
      rw [conn] at opened
      exact ⟨fun retired => opened (quiet retired).1, becomes.2⟩
    · rw [old other same] at opened ⊢
      exact inv.open_live other opened
  · intro runner other waits
    show ((pins.modify slot change).slots other).standing ≠ _ ∧
      ((pins.modify slot change).slots other).standing ≠ _
    by_cases same : other = slot
    · rw [same] at waits
      rw [same, self]
      exact ⟨fun retired => (quiet retired).2 runner waits, becomes.2⟩
    · rw [old other same]
      exact inv.waiting_live runner other waits
  · intro other
    show spawned other = true ↔ ((pins.modify slot change).slots other).standing = _
    rw [tasks other, inv.tasks other]
    by_cases same : other = slot
    · rw [same, self]
      simp
    · rw [old other same]
      simp [same]

theorem Inv.drained {pins : Pins} (inv : pins.Inv) (thread : Nat) : (pins.drained thread).Inv := by
  have slots : ∀ slot, (pins.drained thread).slots slot =
      if (pins.slots slot).standing = .mapped then
        { pins.slots slot with standing := .leaving thread } else pins.slots slot := fun _ => rfl
  have unmapped : ∀ slot, ((pins.drained thread).slots slot).standing ≠ .mapped := by
    intro slot
    rw [slots]
    split <;> simp_all
  have keys : ∀ slot, ((pins.drained thread).slots slot).key = (pins.slots slot).key := by
    intro slot
    rw [slots]
    split <;> rfl
  have states : ∀ slot, ((pins.drained thread).slots slot).state = (pins.slots slot).state := by
    intro slot
    rw [slots]
    split <;> rfl
  refine ⟨?_, ?_, List.nodup_nil, ?_, ?_, ?_, ?_, ?_, ?_, ?_, inv.well_used⟩
  · intro entry mem
    exact absurd mem List.not_mem_nil
  · intro slot mapped
    exact absurd mapped (unmapped slot)
  · intro slot
    show _ ↔ pins.made ≤ slot
    rw [slots, ← inv.unmade slot]
    split <;> simp_all
  · intro slot unmade
    rw [slots] at unmade ⊢
    split at unmade
    · cases unmade
    · rename_i other
      rw [if_neg other]
      exact inv.blank slot unmade
  · intro slot conn has
    rw [states] at has
    exact inv.numbered slot conn has
  · exact inv.latest_of keys states fun slot mapped => absurd mapped (unmapped slot)
  · intro slot opened
    rw [slots] at opened ⊢
    split at opened
    · simp_all
    · rename_i other
      rw [if_neg other]
      exact inv.open_live slot opened
  · intro runner slot waits
    have live := inv.waiting_live runner slot waits
    rw [slots]
    split
    · simp
    · exact live
  · intro slot
    show pins.spawned slot = true ↔ _
    rw [slots, inv.tasks slot]
    split <;> simp_all

end Pins

end DbFree.Pooling
