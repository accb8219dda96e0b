import DbFree.MasterKeys

/- The key that the process seals secrets with is the stored one as long as keys are
created one at a time and only where nothing is sealed. -/
namespace DbFree.MasterKeys

open Interleaving

namespace Keys

/-- The cached key is the one the provider holds, what it sealed opens after a restart, and
no key was created over secrets sealed under an earlier one. -/
structure SealsWithStoredKey (keys : Keys) : Prop where
  cached_held : ∀ key, keys.cached = some key → keys.held = some key
  reopens : ∀ key ∈ keys.sealedWith, ∀ surroundings, surroundings.locked = none →
    surroundings.unreadable = none → (keys.ring.lookup surroundings).1 = .ok (.found key)
  never_orphans : keys.orphaned = false

/-- A key is created where none is cached or under way, nothing is sealed and no locked
keychain hides one; and a locked keychain hides no other key than the one in the file. -/
def CreatesFirstKey (_ : Nat) (keys : Keys) (op : KeyOp) (surroundings : Surroundings) : Prop :=
  match op with
  | .create =>
    keys.cached = none ∧ (∀ thread, keys.pending thread = none) ∧ keys.secrets.Empty ∧
      (surroundings.locked.isSome = true → keys.ring.entry = .absent)
  | .lookup =>
    surroundings.locked.isSome = true → ∀ key, keys.ring.filed = .key key →
      keys.ring.entry = .absent ∨ keys.ring.entry = .key key
  | _ => True

/-- The key is the one stored, and the one last obtained. -/
def Current (keys : Keys) (key : MasterKey) : Prop := keys.ring.Opens key ∧ keys.held = some key

structure Inv (keys : Keys) : Prop where
  cached_current : ∀ key, keys.cached = some key → keys.Current key
  pending_current : ∀ thread key, keys.pending thread = some key → keys.Current key
  sealed_cached : ∀ key ∈ keys.sealedWith, keys.cached = some key
  never_orphans : keys.orphaned = false

theorem start_inv (ring : OsKeyring) (secrets : SealedSecrets) : (start ring secrets).Inv where
  cached_current := by simp [start]
  pending_current := by simp [start]
  sealed_cached := by simp [start]
  never_orphans := rfl

theorem Inv.seals {keys : Keys} (inv : keys.Inv) : keys.SealsWithStoredKey where
  cached_held key cached := (inv.cached_current key cached).2
  reopens key sealed _ answers readable :=
    OsKeyring.lookup_of_opens (inv.cached_current key (inv.sealed_cached key sealed)).1 answers
      readable
  never_orphans := inv.never_orphans

/-- What a step may do to the cache: fill it, never change it. -/
theorem exec_cached {thread : Nat} {keys next : Keys} {op : KeyOp} {surroundings : Surroundings}
    {answer : op.Answer} {key : MasterKey} (cached : keys.cached = some key)
    (performed : exec thread keys op surroundings = some (answer, next)) :
    next.cached = some key := by
  cases op with
  | getOrInit offered | set offered =>
    cases performed
    show some (keys.cached.getD offered) = _
    rw [cached, Option.getD_some]
  | lookup =>
    simp only [exec, lookup, Option.some.injEq] at performed
    split at performed <;> (cases performed; exact cached)
  | create =>
    simp only [exec, create, Option.some.injEq] at performed
    split at performed <;> (cases performed; exact cached)
  | get | storage | keyPath =>
    cases performed
    exact cached
  | sealedSecretCount | clearSealedSecrets | put _ _ | drop _ _ =>
    simp only [exec] at performed
    split at performed <;> (cases performed; exact cached)

/-- A step touches only the pending key of its own thread. -/
theorem exec_pending {thread other : Nat} {keys next : Keys} {op : KeyOp}
    {surroundings : Surroundings} {answer : op.Answer} (different : other ≠ thread)
    (performed : exec other keys op surroundings = some (answer, next)) :
    next.pending thread = keys.pending thread := by
  cases op with
  | getOrInit offered | set offered =>
    cases performed
    exact Function.update_of_ne (Ne.symm different) ..
  | lookup =>
    simp only [exec, lookup, Option.some.injEq] at performed
    split at performed
    · cases performed
      exact Function.update_of_ne (Ne.symm different) ..
    · cases performed
      rfl
  | create =>
    simp only [exec, create, Option.some.injEq] at performed
    split at performed
    · cases performed
      exact Function.update_of_ne (Ne.symm different) ..
    · cases performed
      rfl
  | get | storage | keyPath =>
    cases performed
    rfl
  | sealedSecretCount | clearSealedSecrets | put _ _ | drop _ _ =>
    simp only [exec] at performed
    split at performed <;> (cases performed; rfl)

/-- What a thread knows of the keys that no other thread takes from it. -/
abbrev Keeps (thread : Nat) (known : Keys → Prop) : Prop :=
  Stable exec Inv CreatesFirstKey thread known

abbrev Does (thread : Nat) (known : Keys → Prop) (op : KeyOp)
    (result : op.Answer → Keys → Prop) : Prop :=
  Performs exec Inv CreatesFirstKey thread known op result

theorem cached_stable (thread : Nat) (key : MasterKey) :
    Keeps thread fun keys => keys.cached = some key :=
  fun _ _ _ _ _ _ _ _ cached _ performed => exec_cached cached performed

theorem pending_stable (thread : Nat) (key : MasterKey) :
    Keeps thread fun keys => keys.pending thread = some key := by
  intro other different keys op surroundings answer next _ pending _ performed
  rw [exec_pending different performed]
  exact pending

theorem get_does (thread : Nat) :
    Does thread (fun _ => True) .get
      fun answer keys => ∀ key, answer = some key → keys.cached = some key := by
  intro keys surroundings answer next inv _ _ performed
  cases performed
  exact ⟨inv, fun key cached => cached⟩

/-- Two keys that are both stored are one key. -/
theorem Current.of_opens {keys : Keys} {key found : MasterKey} (current : keys.Current key)
    (opens : keys.ring.Opens found) : key = found :=
  current.1.unique opens

@[simp]
theorem obtain_pending (keys : Keys) (thread : Nat) (key : MasterKey) :
    (keys.obtain thread key).pending thread = some key := by
  exact Function.update_self ..

/-- A key obtained while every known key is the one stored. -/
theorem Inv.obtain {keys : Keys} (inv : keys.Inv) (thread : Nat) {key : MasterKey}
    (opens : keys.ring.Opens key) : (keys.obtain thread key).Inv := by
  have renewed : ∀ other, keys.Current other → (keys.obtain thread key).Current other := by
    intro other current
    refine ⟨current.1, ?_⟩
    show some key = some other
    rw [current.of_opens opens]
  refine ⟨?_, ?_, inv.sealed_cached, inv.never_orphans⟩
  · intro other cached
    exact renewed other (inv.cached_current other cached)
  · intro other held pending
    by_cases same : other = thread
    · rw [same, obtain_pending] at pending
      cases pending
      exact ⟨opens, rfl⟩
    · have kept : keys.pending other = some held := by
        rw [← pending]
        exact (Function.update_of_ne same ..).symm
      exact renewed held (inv.pending_current other held kept)

theorem Inv.offer {keys : Keys} (inv : keys.Inv) {thread : Nat} {key : MasterKey}
    (pending : keys.pending thread = some key) :
    (keys.offer thread key).Inv ∧ (keys.offer thread key).cached = some key := by
  have current := inv.pending_current thread key pending
  have cached_key : keys.cached.getD key = key := by
    cases cached : keys.cached with
    | none => rfl
    | some other => exact (inv.cached_current other cached).of_opens current.1
  have cached : (keys.offer thread key).cached = some key := congrArg some cached_key
  refine ⟨⟨?_, ?_, ?_, inv.never_orphans⟩, cached⟩
  · intro other cached_other
    rw [cached] at cached_other
    cases cached_other
    exact current
  · intro other held still
    apply inv.pending_current other held
    by_cases same : other = thread
    · have gone : (keys.offer thread key).pending other = none := by
        rw [same]
        exact Function.update_self ..
      rw [gone] at still
      cases still
    · rw [← still]
      exact (Function.update_of_ne same ..).symm
  · intro other sealed
    have was_cached := inv.sealed_cached other sealed
    rw [cached, (inv.cached_current other was_cached).of_opens current.1]

theorem getOrInit_does (thread : Nat) (key : MasterKey) :
    Does thread (fun keys => keys.pending thread = some key) (.getOrInit key)
      fun answer keys => keys.cached = some answer := by
  intro keys surroundings answer next inv pending _ performed
  cases performed
  exact ⟨(inv.offer pending).1, rfl⟩

theorem set_does (thread : Nat) (key : MasterKey) :
    Does thread (fun keys => keys.pending thread = some key) (.set key) fun _ _ => True := by
  intro keys surroundings answer next inv pending _ performed
  cases performed
  exact ⟨(inv.offer pending).1, trivial⟩

/-- Only the ring's memory of where it looked has changed. -/
theorem Inv.with_ring {keys : Keys} (inv : keys.Inv) {ring : OsKeyring}
    (same : ∀ key, ring.Opens key ↔ keys.ring.Opens key) : Inv { keys with ring } where
  cached_current key cached :=
    ⟨(same key).mpr (inv.cached_current key cached).1, (inv.cached_current key cached).2⟩
  pending_current thread key pending :=
    ⟨(same key).mpr (inv.pending_current thread key pending).1,
      (inv.pending_current thread key pending).2⟩
  sealed_cached := inv.sealed_cached
  never_orphans := inv.never_orphans

theorem lookup_does (thread : Nat) :
    Does thread (fun _ => True) .lookup
      fun answer keys => ∀ key, answer = .ok (.found key) → keys.pending thread = some key := by
  intro keys surroundings answer next inv _ meets performed
  have kept : Inv { keys with ring := (keys.ring.lookup surroundings).2 } :=
    inv.with_ring fun key => OsKeyring.lookup_opens surroundings key
  simp only [exec, lookup, Option.some.injEq] at performed
  split at performed
  · rename_i key ring looked
    cases performed
    rw [looked] at kept
    have opens : ring.Opens key := by
      have same : (keys.ring.lookup surroundings).2.Opens key ↔ keys.ring.Opens key :=
        OsKeyring.lookup_opens surroundings key
      rw [looked] at same
      apply same.mpr
      cases OsKeyring.lookup_found (congrArg Prod.fst looked) with
      | inl opens => exact opens
      | inr filed =>
        cases meets filed.1 key filed.2 with
        | inl absent => exact .inr ⟨absent, filed.2⟩
        | inr entry => exact .inl entry
    refine ⟨kept.obtain thread opens, fun other found => ?_⟩
    cases found
    exact Function.update_self ..
  · rename_i other ring not_found looked
    cases performed
    rw [looked] at kept
    refine ⟨kept, fun key found => ?_⟩
    exact absurd found (not_found key)

theorem create_does (thread : Nat) :
    Does thread (fun _ => True) .create
      fun answer keys => ∀ key, answer = .ok key → keys.pending thread = some key := by
  intro keys surroundings answer next inv _ meets performed
  obtain ⟨uncached, idle, empty, no_entry⟩ := meets
  have nothing_sealed : ∀ key, key ∉ keys.sealedWith := by
    intro key sealed
    have cached := inv.sealed_cached key sealed
    rw [uncached] at cached
    cases cached
  have noted : ∀ ring, Inv { keys with
      ring, orphaned := keys.orphaned || !decide keys.secrets.Empty } := by
    intro ring
    refine ⟨?_, ?_, inv.sealed_cached, ?_⟩
    · intro key cached
      exact absurd (cached : keys.cached = some key) (by rw [uncached]; simp)
    · intro other key pending
      exact absurd (pending : keys.pending other = some key) (by rw [idle other]; simp)
    · show (keys.orphaned || !decide keys.secrets.Empty) = false
      rw [inv.never_orphans, decide_eq_true empty]
      rfl
  simp only [exec, create, Option.some.injEq] at performed
  split at performed
  · rename_i key ring created
    cases performed
    have opens : ring.Opens key := by
      have found := OsKeyring.create_opens (congrArg Prod.fst created) no_entry
      rw [created] at found
      exact found
    refine ⟨(noted ring).obtain thread opens, fun other same => ?_⟩
    cases same
    exact Function.update_self ..
  · cases performed
    exact ⟨noted _, fun key same => nomatch same⟩

theorem put_does (thread : Nat) (key : MasterKey) (place : Place) :
    Does thread (fun keys => keys.cached = some key) (.put key place) fun _ _ => True := by
  intro keys surroundings answer next inv cached _ performed
  simp only [exec] at performed
  split at performed
  · cases performed
    exact ⟨inv, trivial⟩
  · cases performed
    refine ⟨⟨inv.cached_current, inv.pending_current, ?_, inv.never_orphans⟩, trivial⟩
    intro other sealed
    cases List.mem_cons.mp sealed with
    | inl same =>
      rw [same]
      exact cached
    | inr before => exact inv.sealed_cached other before

theorem other_does (thread : Nat) {op : KeyOp}
    (plain : op = .sealedSecretCount ∨ op = .clearSealedSecrets ∨ op = .storage ∨ op = .keyPath ∨
      ∃ place index, op = .drop place index) :
    Does thread (fun _ => True) op fun _ _ => True := by
  intro keys surroundings answer next inv _ _ performed
  refine ⟨?_, trivial⟩
  rcases plain with same | same | same | same | ⟨place, index, same⟩ <;> subst same
  · simp only [exec] at performed
    split at performed <;> (cases performed; exact inv)
  · simp only [exec] at performed
    split at performed <;>
      (cases performed; exact ⟨inv.cached_current, inv.pending_current, inv.sealed_cached,
        inv.never_orphans⟩)
  · cases performed
    exact inv
  · cases performed
    exact inv
  · simp only [exec] at performed
    split at performed
    · cases performed
      exact inv
    · cases performed
      exact ⟨inv.cached_current, inv.pending_current, inv.sealed_cached, inv.never_orphans⟩

end Keys

open Keys

/-- What a program of the thread turns what it knows into. -/
abbrev Proves (thread : Nat) {α : Type} (prog : KeyProg α) (known : Keys → Prop)
    (result : α → Keys → Prop) : Prop :=
  Verified Keys.exec Keys.Inv CreatesFirstKey thread prog known result

/-- A key that was resolved is the pending one of the thread. -/
def Obtained (thread : Nat) (resolved : Except AppError Resolved) (keys : Keys) : Prop :=
  ∀ key, resolved = .ok (.key key) → keys.pending thread = some key

theorem obtained_error (thread : Nat) (error : AppError) (keys : Keys) :
    Obtained thread (.error error) keys := fun _ same => nomatch same

theorem createUnlessSealed_proves (thread : Nat) {otherwise : Nat → Except AppError Resolved}
    (no_key : ∀ sealed key, otherwise sealed ≠ .ok (.key key)) :
    Proves thread (createUnlessSealed otherwise) (fun _ => True) (Obtained thread) := by
  apply Verified.bind (Verified.ask (stable_true thread) (other_does thread (.inl rfl)))
  intro counted
  cases counted with
  | error error => exact Verified.done fun keys _ _ => obtained_error thread error keys
  | ok sealed =>
    cases sealed with
    | succ more => exact Verified.done fun keys _ _ key same => absurd same (no_key _ key)
    | zero =>
      apply Verified.bind (Verified.ask (stable_true thread) (create_does thread))
      intro created
      cases created with
      | error error => exact Verified.done fun keys _ _ => obtained_error thread error keys
      | ok key =>
        apply Verified.done
        intro keys _ pending other same
        cases same
        exact pending key rfl

theorem resolveMasterKey_proves (thread : Nat) :
    Proves thread resolveMasterKey (fun _ => True) (Obtained thread) := by
  apply Verified.bind (Verified.ask (stable_true thread) (lookup_does thread))
  intro looked
  cases looked with
  | error error => exact Verified.done fun keys _ _ => obtained_error thread error keys
  | ok found =>
    cases found with
    | found key =>
      apply Verified.done
      intro keys _ pending other same
      cases same
      exact pending key rfl
    | missing =>
      apply (createUnlessSealed_proves thread _).of_known fun _ _ _ => trivial
      intro sealed key same
      cases same
    | unavailable reason =>
      apply (createUnlessSealed_proves thread _).of_known fun _ _ _ => trivial
      intro sealed key same
      cases same

theorem masterKey_proves (thread : Nat) :
    Proves thread masterKey (fun _ => True)
      fun answer keys => ∀ key, answer = .ok key → keys.cached = some key := by
  apply Verified.bind (Verified.ask (stable_true thread) (get_does thread))
  intro cached
  cases cached with
  | some key =>
    apply Verified.done
    intro keys _ known other same
    cases same
    exact known key rfl
  | none =>
    apply Verified.bind ((resolveMasterKey_proves thread).of_known fun _ _ _ => trivial)
    intro resolved
    cases resolved with
    | error error => exact Verified.done fun _ _ _ _ same => nomatch same
    | ok resolved =>
      cases resolved with
      | lost sealed => exact Verified.done fun _ _ _ _ same => nomatch same
      | key key =>
        apply Verified.bind
        · apply (Verified.ask (pending_stable thread key) (getOrInit_does thread key)).of_known
          intro keys _ obtained
          exact obtained key rfl
        · intro answer
          apply Verified.done
          intro keys _ cached other same
          cases same
          exact cached

theorem lostSecrets_proves (thread : Nat) :
    Proves thread lostSecrets (fun _ => True) fun _ _ => True := by
  apply Verified.bind (Verified.ask (stable_true thread) (get_does thread))
  intro cached
  cases cached with
  | some key => exact Verified.done fun _ _ _ => trivial
  | none =>
    apply Verified.bind ((resolveMasterKey_proves thread).of_known fun _ _ _ => trivial)
    intro resolved
    cases resolved with
    | error error => exact Verified.done fun _ _ _ => trivial
    | ok resolved =>
      cases resolved with
      | lost sealed => exact Verified.done fun _ _ _ => trivial
      | key key =>
        apply Verified.bind
        · apply (Verified.ask (pending_stable thread key) (set_does thread key)).of_known
          intro keys _ obtained
          exact obtained key rfl
        · exact fun _ => Verified.done fun _ _ _ => trivial

theorem credentialStatus_proves (thread : Nat) :
    Proves thread credentialStatus (fun _ => True) fun _ _ => True := by
  apply Verified.bind (lostSecrets_proves thread)
  intro lost
  cases lost with
  | error error => exact Verified.done fun _ _ _ => trivial
  | ok lost =>
    apply Verified.bind (Verified.ask (stable_true thread) (other_does thread (by simp)))
    intro storage
    apply Verified.bind (Verified.ask (stable_true thread) (other_does thread (by simp)))
    exact fun keyPath => Verified.done fun _ _ _ => trivial

theorem resetCredentials_proves (thread : Nat) :
    Proves thread resetCredentials (fun _ => True) fun _ _ => True := by
  apply Verified.bind (credentialStatus_proves thread)
  intro status
  cases status with
  | error error => exact Verified.done fun _ _ _ => trivial
  | ok status =>
    by_cases intact : status.lost = true
    · simp only [intact, Bool.not_true, Bool.false_eq_true, if_false]
      apply Verified.bind (Verified.ask (stable_true thread) (other_does thread (by simp)))
      intro cleared
      cases cleared with
      | error error => exact Verified.done fun _ _ _ => trivial
      | ok _ =>
        apply Verified.bind (Verified.ask (stable_true thread) (create_does thread))
        intro created
        cases created with
        | error error => exact Verified.done fun _ _ _ => trivial
        | ok key =>
          apply Verified.bind
          · apply (Verified.ask (pending_stable thread key) (set_does thread key)).of_known
            intro keys _ obtained
            exact obtained key rfl
          · exact fun _ => credentialStatus_proves thread
    · simp only [intact, Bool.not_false, if_true]
      exact Verified.done fun _ _ _ => trivial

theorem sealSecrets_proves (thread : Nat) (places : List Place) :
    Proves thread (sealSecrets places) (fun _ => True) fun _ _ => True := by
  induction places with
  | nil => exact Verified.done fun _ _ _ => trivial
  | cons place rest hypothesis =>
    apply Verified.bind (masterKey_proves thread)
    intro answer
    cases answer with
    | error error => exact Verified.done fun _ _ _ => trivial
    | ok key =>
      apply Verified.bind
      · apply (Verified.ask (cached_stable thread key) (put_does thread key place)).of_known
        intro keys _ cached
        exact cached key rfl
      · intro stored
        cases stored with
        | error error => exact Verified.done fun _ _ _ => trivial
        | ok _ => exact hypothesis

theorem program_proves (thread : Nat) (command : Command) :
    Proves thread command.program (fun _ => True) fun _ _ => True := by
  cases command with
  | sealSecrets places => exact sealSecrets_proves thread places
  | credentialStatus =>
    exact Verified.bind (credentialStatus_proves thread) fun _ => Verified.done fun _ _ _ => trivial
  | resetCredentials =>
    exact Verified.bind (resetCredentials_proves thread) fun _ => Verified.done fun _ _ _ => trivial
  | dropSecret place index =>
    exact Verified.ask (stable_true thread) (other_does thread (by simp))

/-- The commands of the process over one keychain and one store. -/
abbrev commandStep : Threads Keys KeyOp KeyOp.Answer (Except AppError Unit) →
    Event Command Surroundings → Option (Threads Keys KeyOp KeyOp.Answer (Except AppError Unit)) :=
  step Keys.exec Command.program

/-- A keychain that answers and holds nothing, and a generator that draws this key. -/
def drawing (key : MasterKey) : Surroundings := ⟨none, none, .written, key, none⟩

def emptyRing : OsKeyring := ⟨.absent, none, false⟩

end DbFree.MasterKeys
