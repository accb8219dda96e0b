import DbFree.SchemaCache

/- Nothing fetched before an invalidation outlives it, as long as no call writes its answer
back after an invalidation that began behind its epoch check has swept. -/
namespace DbFree.SchemaCache

open Interleaving

theorem Ids.key_connection {first second : Ids} (same : first.key = second.key) :
    first.connection = second.connection := by
  have text : ∀ ids : Ids, ids.key.takeWhile (· ≠ sep) = ids.connection.text := by
    intro ids
    have front : ∀ c ∈ ids.connection.text, decide (c ≠ sep) = true := by
      intro c mem
      have other : c ≠ sep := fun is_sep => ids.connection.plain (is_sep ▸ mem)
      simpa using other
    rw [Ids.key, List.append_assoc, List.append_assoc, List.append_assoc,
      List.takeWhile_append_of_pos front]
    simp
  have texts : first.connection.text = second.connection.text := by
    rw [← text first, ← text second, same]
  cases first_connection : first.connection with
  | mk _ _ =>
    cases second_connection : second.connection with
    | mk _ _ =>
      rw [first_connection, second_connection] at texts
      cases texts
      rfl

/-- What is retained was there, and is of another connection. -/
theorem retain_some {α : Type} {map : Text → Option α} {connection : ConnectionId} {ids : Ids}
    {value : α} (kept : Cache.retain map connection ids.key = some value) :
    map ids.key = some value ∧ ids.connection ≠ connection := by
  unfold Cache.retain at kept
  split at kept
  · cases kept
  · rename_i other
    refine ⟨kept, fun same => other ?_⟩
    rw [← same, List.isPrefixOf_iff_prefix]
    exact ⟨ids.namespace ++ [sep] ++ ids.scope, by simp [connectionPrefix, Ids.key]⟩

namespace Cache

/-- Whatever was fetched before an invalidation that has returned is neither kept nor
shared nor handed out. -/
structure NeverStale (cache : Cache) : Prop where
  recent : ∀ (ids : Ids) payload, cache.recent ids.key = some payload →
    cache.invalidatedAt ids.connection ≤ payload.since
  stored : ∀ (ids : Ids) payload, cache.stored ids = some payload →
    cache.invalidatedAt ids.connection ≤ payload.since
  shared : ∀ (ids : Ids) flight since, cache.flights ids.key = some flight →
    cache.fetchingSince flight = some since → cache.invalidatedAt ids.connection ≤ since
  served : cache.servedStale = false

/-- A call writes its answer back before any invalidation that began after its epoch check
has swept the place; and the store can be cleared. -/
def WritesInTime (thread : Nat) (cache : Cache) (op : CacheOp) (outside : Outside) : Prop :=
  match op with
  | .persist ids _ => cache.clearedAt ids.connection ≤ cache.checked thread
  | .rememberRecent ids _ => cache.forgottenAt ids.connection ≤ cache.checked thread
  | .clearSchemaCache _ => outside.storeFails = false
  | _ => True

structure Inv (cache : Cache) : Prop where
  begun : ∀ connection, cache.bumpedAt connection ≤ cache.invalidations
  landed_begun : ∀ connection, cache.landedAt connection ≤ cache.bumpedAt connection
  returned_landed : ∀ connection, cache.invalidatedAt connection ≤ cache.landedAt connection
  returned_forgotten : ∀ connection, cache.invalidatedAt connection ≤ cache.forgottenAt connection
  returned_cleared : ∀ connection, cache.invalidatedAt connection ≤ cache.clearedAt connection
  recent_fresh : ∀ (ids : Ids) payload, cache.recent ids.key = some payload →
    cache.forgottenAt ids.connection ≤ payload.since
  stored_fresh : ∀ (ids : Ids) payload, cache.stored ids = some payload →
    cache.clearedAt ids.connection ≤ payload.since
  flight_fresh : ∀ (ids : Ids) flight, cache.flights ids.key = some flight →
    flight < cache.nextFlight ∧ cache.landedAt ids.connection ≤ cache.madeAt flight
  made : ∀ flight, cache.madeAt flight ≤ cache.invalidations
  fetching : ∀ flight since, cache.fetchingSince flight = some since →
    cache.madeAt flight ≤ since
  captured : ∀ flight ids epoch, cache.created flight = some (ids, epoch) →
    epoch ≤ cache.epochs ids.connection
  never_served : cache.servedStale = false

theorem start_inv (stored : Ids → Option Text) : (start stored).Inv where
  begun := by simp [start]
  landed_begun := by simp [start]
  returned_landed := by simp [start]
  returned_forgotten := by simp [start]
  returned_cleared := by simp [start]
  recent_fresh := by simp [start]
  stored_fresh := by simp [start]
  flight_fresh := by simp [start]
  made := by simp [start]
  fetching := by simp [start]
  captured := by simp [start]
  never_served := rfl

theorem Inv.shared_fresh {cache : Cache} (inv : cache.Inv) {ids : Ids} {flight since : Nat}
    (running : cache.flights ids.key = some flight)
    (fetching : cache.fetchingSince flight = some since) :
    cache.invalidatedAt ids.connection ≤ since := by
  have returned := inv.returned_landed ids.connection
  have landed := (inv.flight_fresh ids flight running).2
  have made := inv.fetching flight since fetching
  omega

theorem Inv.neverStale {cache : Cache} (inv : cache.Inv) : cache.NeverStale where
  recent ids payload held :=
    Nat.le_trans (inv.returned_forgotten ids.connection) (inv.recent_fresh ids payload held)
  stored ids payload held :=
    Nat.le_trans (inv.returned_cleared ids.connection) (inv.stored_fresh ids payload held)
  shared _ _ _ running fetching := inv.shared_fresh running fetching
  served := inv.never_served

/-- Handing out what is not stale. -/
theorem Inv.serve {cache : Cache} (inv : cache.Inv) {connection : ConnectionId}
    {since : Option Nat}
    (fresh : ∀ time, since = some time → cache.invalidatedAt connection ≤ time) :
    (cache.serve connection since).Inv := by
  cases since with
  | none => exact inv
  | some time =>
    have not_stale : ¬time < cache.invalidatedAt connection := Nat.not_lt.mpr (fresh time rfl)
    refine { inv with never_served := ?_ }
    show (cache.servedStale || decide (time < cache.invalidatedAt connection)) = false
    rw [inv.never_served, decide_eq_false not_stale]
    rfl

theorem reach_self (times : ConnectionId → Nat) (connection : ConnectionId) (time : Nat) :
    reach times connection time connection = max (times connection) time :=
  Function.update_self ..

theorem reach_of_ne (times : ConnectionId → Nat) {connection other : ConnectionId}
    (different : other ≠ connection) (time : Nat) :
    reach times connection time other = times other :=
  Function.update_of_ne different ..

theorem le_reach (times : ConnectionId → Nat) (connection other : ConnectionId) (time : Nat) :
    times other ≤ reach times connection time other := by
  by_cases same : other = connection
  · rw [same, reach_self]
    exact Nat.le_max_left ..
  · rw [reach_of_ne times same]

theorem reach_le {times : ConnectionId → Nat} {connection other : ConnectionId} {time bound : Nat}
    (below : times other ≤ bound) (reached : other = connection → time ≤ bound) :
    reach times connection time other ≤ bound := by
  by_cases same : other = connection
  · rw [same, reach_self]
    exact Nat.max_le.mpr ⟨same ▸ below, reached same⟩
  · rw [reach_of_ne times same]
    exact below

/-- Reaching further in one place than in another keeps their order. -/
theorem reach_mono {times later : ConnectionId → Nat} {connection : ConnectionId} {time : Nat}
    (below : ∀ other, times other ≤ later other) (reached : time ≤ later connection)
    (other : ConnectionId) : reach times connection time other ≤ later other := by
  apply reach_le (below other)
  intro same
  rw [same]
  exact reached

theorem Inv.makeFlight {cache : Cache} (inv : cache.Inv) (ids : Ids) :
    (cache.makeFlight ids).Inv := by
  have landed : ∀ connection, cache.landedAt connection ≤ cache.invalidations :=
    fun connection => Nat.le_trans (inv.landed_begun connection) (inv.begun connection)
  refine { inv with flight_fresh := ?_, made := ?_, fetching := ?_, captured := ?_ }
  · intro other flight running
    show flight < cache.nextFlight + 1 ∧ cache.landedAt other.connection ≤
      Function.update cache.madeAt cache.nextFlight cache.invalidations flight
    change Function.update cache.flights ids.key _ other.key = some flight at running
    by_cases same : other.key = ids.key
    · rw [same, Function.update_self] at running
      cases running
      rw [Function.update_self]
      exact ⟨Nat.lt_succ_self _, landed other.connection⟩
    · rw [Function.update_of_ne same] at running
      obtain ⟨below, fresh⟩ := inv.flight_fresh other flight running
      rw [Function.update_of_ne (Nat.ne_of_lt below)]
      exact ⟨Nat.lt_succ_of_lt below, fresh⟩
  · intro flight
    show Function.update cache.madeAt cache.nextFlight cache.invalidations flight ≤ _
    by_cases same : flight = cache.nextFlight
    · rw [same, Function.update_self]
      exact Nat.le_refl _
    · rw [Function.update_of_ne same]
      exact inv.made flight
  · intro flight since fetching
    show Function.update cache.madeAt cache.nextFlight cache.invalidations flight ≤ since
    change Function.update cache.fetchingSince cache.nextFlight none flight = some since at fetching
    by_cases same : flight = cache.nextFlight
    · rw [same, Function.update_self] at fetching
      cases fetching
    · rw [Function.update_of_ne same] at fetching ⊢
      exact inv.fetching flight since fetching
  · intro flight others epoch made
    change Function.update cache.created cache.nextFlight _ flight = some (others, epoch) at made
    by_cases same : flight = cache.nextFlight
    · rw [same, Function.update_self] at made
      cases made
      exact Nat.le_refl _
    · rw [Function.update_of_ne same] at made
      exact inv.captured flight others epoch made

abbrev Keeps (thread : Nat) (known : Cache → Prop) : Prop :=
  Stable exec Inv WritesInTime thread known

abbrev Does (thread : Nat) (known : Cache → Prop) (op : CacheOp)
    (result : op.Answer → Cache → Prop) : Prop :=
  Performs exec Inv WritesInTime thread known op result

/-- How the times of a cache may change: forward, and an epoch moves with each new bump. -/
structure Grows (cache next : Cache) : Prop where
  epochs : ∀ connection, cache.epochs connection ≤ next.epochs connection
  bumped : ∀ connection, cache.bumpedAt connection ≤ next.bumpedAt connection
  landed : ∀ connection, cache.landedAt connection ≤ next.landedAt connection
  forgotten : ∀ connection, cache.forgottenAt connection ≤ next.forgottenAt connection
  fenced : ∀ connection, next.epochs connection = cache.epochs connection →
    next.bumpedAt connection = cache.bumpedAt connection

theorem Grows.same {cache next : Cache} (epochs : next.epochs = cache.epochs)
    (bumped : next.bumpedAt = cache.bumpedAt) (landed : next.landedAt = cache.landedAt)
    (forgotten : next.forgottenAt = cache.forgottenAt) : cache.Grows next where
  epochs connection := Nat.le_of_eq (congrFun epochs connection).symm
  bumped connection := Nat.le_of_eq (congrFun bumped connection).symm
  landed connection := Nat.le_of_eq (congrFun landed connection).symm
  forgotten connection := Nat.le_of_eq (congrFun forgotten connection).symm
  fenced connection _ := congrFun bumped connection

theorem serve_grows (cache : Cache) (connection : ConnectionId) (since : Option Nat) :
    cache.Grows (cache.serve connection since) := by
  cases since with
  | none => exact .same rfl rfl rfl rfl
  | some time => exact .same rfl rfl rfl rfl

theorem bump_grows {cache : Cache} (inv : cache.Inv) (thread : Nat) (connection : ConnectionId) :
    cache.Grows { cache with
      epochs := Function.update cache.epochs connection (cache.epochs connection + 1)
      invalidations := cache.invalidations + 1
      bumpedAt := Function.update cache.bumpedAt connection (cache.invalidations + 1)
      began := Function.update cache.began thread (cache.invalidations + 1) } := by
  refine ⟨?_, ?_, fun _ => Nat.le_refl _, fun _ => Nat.le_refl _, ?_⟩
  · intro other
    show _ ≤ Function.update cache.epochs connection _ other
    by_cases same : other = connection
    · rw [same, Function.update_self]
      exact Nat.le_succ _
    · rw [Function.update_of_ne same]
  · intro other
    show _ ≤ Function.update cache.bumpedAt connection _ other
    by_cases same : other = connection
    · rw [same, Function.update_self]
      exact Nat.le_succ_of_le (inv.begun connection)
    · rw [Function.update_of_ne same]
  · intro other unmoved
    change Function.update cache.epochs connection _ other = _ at unmoved
    show Function.update cache.bumpedAt connection _ other = _
    by_cases same : other = connection
    · rw [same, Function.update_self] at unmoved
      omega
    · rw [Function.update_of_ne same]

theorem exec_grows {thread : Nat} {cache next : Cache} {op : CacheOp} {outside : Outside}
    {answer : op.Answer} (inv : cache.Inv)
    (performed : exec thread cache op outside = some (answer, next)) : cache.Grows next := by
  cases op with
  | recent ids =>
    simp only [exec] at performed
    split at performed
    · split at performed
      · cases performed
        exact serve_grows ..
      · cases performed
        exact .same rfl rfl rfl rfl
    · cases performed
      exact .same rfl rfl rfl rfl
  | readStored ids =>
    simp only [exec] at performed
    split at performed
    · cases performed
      exact .same rfl rfl rfl rfl
    · cases performed
      exact serve_grows ..
  | start ids =>
    simp only [exec] at performed
    split at performed
    · cases performed
      exact serve_grows ..
    · cases performed
      exact .same rfl rfl rfl rfl
  | await flight =>
    obtain ⟨fetched, -, same⟩ := Option.map_eq_some_iff.mp performed
    cases same
    exact .same rfl rfl rfl rfl
  | board =>
    obtain ⟨made, -, same⟩ := Option.map_eq_some_iff.mp performed
    cases same
    exact .same rfl rfl rfl rfl
  | persist ids payload | finish ids flight =>
    simp only [exec] at performed
    split at performed <;> (cases performed; exact .same rfl rfl rfl rfl)
  | isLive _ | beginFetch _ | endFetch | epoch _ | rememberRecent _ _ | rememberLive _ | land _ _
  | notify _ =>
    cases performed
    exact .same rfl rfl rfl rfl
  | bumpEpoch connection =>
    cases performed
    exact bump_grows inv thread connection
  | retainFlights connection =>
    cases performed
    exact ⟨fun _ => Nat.le_refl _, fun _ => Nat.le_refl _, fun other => le_reach _ _ other _,
      fun _ => Nat.le_refl _, fun _ _ => rfl⟩
  | retainRecent connection =>
    cases performed
    exact ⟨fun _ => Nat.le_refl _, fun _ => Nat.le_refl _, fun _ => Nat.le_refl _,
      fun other => le_reach _ _ other _, fun _ _ => rfl⟩
  | clearSchemaCache connection =>
    cases performed
    exact .same rfl rfl rfl rfl

theorem serve_own (cache : Cache) (connection : ConnectionId) (since : Option Nat) :
    (cache.serve connection since).began = cache.began ∧
      (cache.serve connection since).checked = cache.checked := by
  cases since with
  | none => exact ⟨rfl, rfl⟩
  | some time => exact ⟨rfl, rfl⟩

theorem exec_own {thread other : Nat} {cache next : Cache} {op : CacheOp} {outside : Outside}
    {answer : op.Answer} (different : other ≠ thread)
    (performed : exec other cache op outside = some (answer, next)) :
    next.began thread = cache.began thread ∧ next.checked thread = cache.checked thread := by
  cases op with
  | recent ids =>
    simp only [exec] at performed
    split at performed
    · split at performed
      · cases performed
        rw [(serve_own ..).1, (serve_own ..).2]
        exact ⟨rfl, rfl⟩
      · cases performed
        exact ⟨rfl, rfl⟩
    · cases performed
      exact ⟨rfl, rfl⟩
  | readStored ids =>
    simp only [exec] at performed
    split at performed
    · cases performed
      exact ⟨rfl, rfl⟩
    · cases performed
      rw [(serve_own ..).1, (serve_own ..).2]
      exact ⟨rfl, rfl⟩
  | start ids =>
    simp only [exec] at performed
    split at performed
    · cases performed
      rw [(serve_own ..).1, (serve_own ..).2]
      exact ⟨rfl, rfl⟩
    · cases performed
      exact ⟨rfl, rfl⟩
  | await flight =>
    obtain ⟨fetched, -, same⟩ := Option.map_eq_some_iff.mp performed
    cases same
    exact ⟨rfl, rfl⟩
  | board =>
    obtain ⟨made, -, same⟩ := Option.map_eq_some_iff.mp performed
    cases same
    exact ⟨rfl, rfl⟩
  | persist ids payload | finish ids flight =>
    simp only [exec] at performed
    split at performed <;> (cases performed; exact ⟨rfl, rfl⟩)
  | isLive _ | beginFetch _ | endFetch | rememberRecent _ _ | rememberLive _ | land _ _ | notify _
  | retainFlights _ | retainRecent _ | clearSchemaCache _ =>
    cases performed
    exact ⟨rfl, rfl⟩
  | epoch connection =>
    cases performed
    exact ⟨rfl, Function.update_of_ne (Ne.symm different) ..⟩
  | bumpEpoch connection =>
    cases performed
    exact ⟨Function.update_of_ne (Ne.symm different) .., rfl⟩

/-- A captured epoch is no later than the current one. -/
def Captured (connection : ConnectionId) (captured : Nat) (cache : Cache) : Prop :=
  captured ≤ cache.epochs connection

/-- While the epoch is still the captured one, the fetch is younger than any invalidation. -/
def Fenced (connection : ConnectionId) (captured since : Nat) (cache : Cache) : Prop :=
  captured ≤ cache.epochs connection ∧
    (cache.epochs connection = captured → cache.bumpedAt connection ≤ since)

/-- The epoch check found the fetch younger than any invalidation begun by then. -/
def CheckedBy (thread since : Nat) (cache : Cache) : Prop := cache.checked thread ≤ since

theorem captured_stable (thread : Nat) (connection : ConnectionId) (captured : Nat) :
    Keeps thread (Captured connection captured) := by
  intro other _ cache op outside answer next inv below _ performed
  exact Nat.le_trans below ((exec_grows inv performed).epochs connection)

theorem fenced_stable (thread : Nat) (connection : ConnectionId) (captured since : Nat) :
    Keeps thread (Fenced connection captured since) := by
  intro other _ cache op outside answer next inv fenced _ performed
  have grows := exec_grows inv performed
  have moved := grows.epochs connection
  refine ⟨Nat.le_trans fenced.1 moved, fun current => ?_⟩
  have unmoved : next.epochs connection = cache.epochs connection := by
    have below := fenced.1
    omega
  rw [grows.fenced connection unmoved]
  exact fenced.2 (unmoved ▸ current)

theorem checkedBy_stable (thread since : Nat) : Keeps thread (CheckedBy thread since) := by
  intro other different cache op outside answer next _ checked _ performed
  show next.checked thread ≤ since
  rw [(exec_own different performed).2]
  exact checked

/-- What an invalidation has swept so far. -/
def Began (thread : Nat) (connection : ConnectionId) (cache : Cache) : Prop :=
  cache.began thread ≤ cache.bumpedAt connection

def Landed (thread : Nat) (connection : ConnectionId) (cache : Cache) : Prop :=
  cache.began thread ≤ cache.bumpedAt connection ∧ cache.began thread ≤ cache.landedAt connection

def Forgotten (thread : Nat) (connection : ConnectionId) (cache : Cache) : Prop :=
  cache.began thread ≤ cache.landedAt connection ∧
    cache.began thread ≤ cache.forgottenAt connection

theorem began_stable (thread : Nat) (connection : ConnectionId) :
    Keeps thread (Began thread connection) := by
  intro other different cache op outside answer next inv began _ performed
  show next.began thread ≤ _
  rw [(exec_own different performed).1]
  exact Nat.le_trans began ((exec_grows inv performed).bumped connection)

theorem landed_stable (thread : Nat) (connection : ConnectionId) :
    Keeps thread (Landed thread connection) := by
  intro other different cache op outside answer next inv landed _ performed
  have grows := exec_grows inv performed
  rw [Landed, (exec_own different performed).1]
  exact ⟨Nat.le_trans landed.1 (grows.bumped connection),
    Nat.le_trans landed.2 (grows.landed connection)⟩

theorem forgotten_stable (thread : Nat) (connection : ConnectionId) :
    Keeps thread (Forgotten thread connection) := by
  intro other different cache op outside answer next inv forgotten _ performed
  have grows := exec_grows inv performed
  rw [Forgotten, (exec_own different performed).1]
  exact ⟨Nat.le_trans forgotten.1 (grows.landed connection),
    Nat.le_trans forgotten.2 (grows.forgotten connection)⟩

theorem recent_does (thread : Nat) (ids : Ids) :
    Does thread (fun _ => True) (.recent ids) fun _ _ => True := by
  intro cache outside answer next inv _ _ performed
  simp only [exec] at performed
  split at performed
  · rename_i payload held
    split at performed
    · cases performed
      refine ⟨inv.serve fun time same => ?_, trivial⟩
      cases same
      exact inv.neverStale.recent ids payload held
    · cases performed
      exact ⟨inv, trivial⟩
  · cases performed
    exact ⟨inv, trivial⟩

theorem readStored_does (thread : Nat) (ids : Ids) :
    Does thread (fun _ => True) (.readStored ids) fun _ _ => True := by
  intro cache outside answer next inv _ _ performed
  simp only [exec] at performed
  split at performed
  · cases performed
    exact ⟨inv, trivial⟩
  · cases performed
    refine ⟨inv.serve fun time same => ?_, trivial⟩
    obtain ⟨payload, held, since⟩ := Option.map_eq_some_iff.mp same
    rw [← since]
    exact inv.neverStale.stored ids payload held

theorem start_does (thread : Nat) (ids : Ids) :
    Does thread (fun _ => True) (.start ids) fun _ _ => True := by
  intro cache outside answer next inv _ _ performed
  simp only [exec] at performed
  split at performed
  · rename_i running found
    cases performed
    refine ⟨inv.serve fun time fetching => ?_, trivial⟩
    exact inv.shared_fresh found fetching
  · cases performed
    exact ⟨inv.makeFlight ids, trivial⟩

theorem isLive_does (thread : Nat) (ids : Ids) :
    Does thread (fun _ => True) (.isLive ids) fun _ _ => True := by
  intro cache outside answer next inv _ _ performed
  cases performed
  exact ⟨inv, trivial⟩

theorem await_does (thread flight : Nat) :
    Does thread (fun _ => True) (.await flight) fun _ _ => True := by
  intro cache outside answer next inv _ _ performed
  obtain ⟨fetched, -, same⟩ := Option.map_eq_some_iff.mp performed
  cases same
  exact ⟨inv, trivial⟩

theorem notify_does (thread : Nat) (connection : ConnectionId) :
    Does thread (fun _ => True) (.notify connection) fun _ _ => True := by
  intro cache outside answer next inv _ _ performed
  cases performed
  exact ⟨{ inv with }, trivial⟩

theorem land_does (thread flight : Nat) (fetched : Except AppError Payload) :
    Does thread (fun _ => True) (.land flight fetched) fun _ _ => True := by
  intro cache outside answer next inv _ _ performed
  cases performed
  exact ⟨{ inv with }, trivial⟩

theorem rememberLive_does (thread : Nat) (ids : Ids) :
    Does thread (fun _ => True) (.rememberLive ids) fun _ _ => True := by
  intro cache outside answer next inv _ _ performed
  cases performed
  exact ⟨{ inv with }, trivial⟩

theorem finish_does (thread : Nat) (ids : Ids) (flight : Nat) :
    Does thread (fun _ => True) (.finish ids flight) fun _ _ => True := by
  intro cache outside answer next inv _ _ performed
  simp only [exec] at performed
  split at performed
  · cases performed
    refine ⟨{ inv with flight_fresh := ?_ }, trivial⟩
    intro other running found
    change Function.update cache.flights ids.key none other.key = some running at found
    by_cases same : other.key = ids.key
    · rw [same, Function.update_self] at found
      cases found
    · rw [Function.update_of_ne same] at found
      exact inv.flight_fresh other running found
  · cases performed
    exact ⟨inv, trivial⟩

theorem board_does (thread : Nat) :
    Does thread (fun _ => True) .board
      fun answer => Captured answer.1.connection answer.2.2 := by
  intro cache outside answer next inv _ _ performed
  obtain ⟨made, created, same⟩ := Option.map_eq_some_iff.mp performed
  cases same
  refine ⟨{ inv with captured := ?_ }, inv.captured outside.polled made.1 made.2 created⟩
  intro flight ids epoch still
  change Function.update cache.created outside.polled none flight = _ at still
  by_cases same : flight = outside.polled
  · rw [same, Function.update_self] at still
    cases still
  · rw [Function.update_of_ne same] at still
    exact inv.captured flight ids epoch still

theorem beginFetch_does (thread flight captured : Nat) (connection : ConnectionId) :
    Does thread (Captured connection captured) (.beginFetch flight)
      fun since => Fenced connection captured since := by
  intro cache outside answer next inv below _ performed
  cases performed
  refine ⟨{ inv with fetching := ?_ }, below, fun _ => inv.begun connection⟩
  intro other since fetching
  change Function.update cache.fetchingSince flight _ other = some since at fetching
  by_cases same : other = flight
  · rw [same, Function.update_self] at fetching
    cases fetching
    exact inv.made other
  · rw [Function.update_of_ne same] at fetching
    exact inv.fetching other since fetching

theorem endFetch_does (thread captured since : Nat) (connection : ConnectionId) :
    Does thread (Fenced connection captured since) .endFetch
      fun _ => Fenced connection captured since := by
  intro cache outside answer next inv fenced _ performed
  cases performed
  exact ⟨inv, fenced⟩

theorem epoch_does (thread captured since : Nat) (connection : ConnectionId) :
    Does thread (Fenced connection captured since) (.epoch connection)
      fun current cache => current = captured → CheckedBy thread since cache := by
  intro cache outside answer next inv fenced _ performed
  cases performed
  refine ⟨{ inv with }, fun current => ?_⟩
  show Function.update cache.checked thread (cache.bumpedAt connection) thread ≤ since
  rw [Function.update_self]
  exact fenced.2 current

theorem persist_does (thread : Nat) (ids : Ids) (payload : Payload) :
    Does thread (CheckedBy thread payload.since) (.persist ids payload)
      fun _ => CheckedBy thread payload.since := by
  intro cache outside answer next inv checked in_time performed
  simp only [exec] at performed
  split at performed
  · cases performed
    exact ⟨inv, checked⟩
  · cases performed
    refine ⟨{ inv with stored_fresh := ?_ }, checked⟩
    intro other held found
    change Function.update cache.stored ids (some payload) other = some held at found
    by_cases same : other = ids
    · rw [same, Function.update_self] at found
      cases found
      rw [same]
      exact Nat.le_trans in_time checked
    · rw [Function.update_of_ne same] at found
      exact inv.stored_fresh other held found

theorem rememberRecent_does (thread : Nat) (ids : Ids) (payload : Payload) :
    Does thread (CheckedBy thread payload.since) (.rememberRecent ids payload)
      fun _ _ => True := by
  intro cache outside answer next inv checked in_time performed
  cases performed
  refine ⟨{ inv with recent_fresh := ?_ }, trivial⟩
  intro other held found
  change Function.update cache.recent ids.key (some payload) other.key = some held at found
  by_cases same : other.key = ids.key
  · rw [same, Function.update_self] at found
    cases found
    rw [Ids.key_connection same]
    exact Nat.le_trans in_time checked
  · rw [Function.update_of_ne same] at found
    exact inv.recent_fresh other held found

theorem bumpEpoch_does (thread : Nat) (connection : ConnectionId) :
    Does thread (fun _ => True) (.bumpEpoch connection) fun _ => Began thread connection := by
  intro cache outside answer next inv _ _ performed
  cases performed
  have grows := bump_grows inv thread connection
  refine ⟨{ inv with begun := ?_, landed_begun := ?_, made := ?_, captured := ?_ }, ?_⟩
  · intro other
    show Function.update cache.bumpedAt connection _ other ≤ cache.invalidations + 1
    by_cases same : other = connection
    · rw [same, Function.update_self]
    · rw [Function.update_of_ne same]
      exact Nat.le_succ_of_le (inv.begun other)
  · intro other
    exact Nat.le_trans (inv.landed_begun other) (grows.bumped other)
  · intro flight
    exact Nat.le_succ_of_le (inv.made flight)
  · intro flight ids epoch made
    exact Nat.le_trans (inv.captured flight ids epoch made) (grows.epochs ids.connection)
  · show Function.update cache.began thread _ thread ≤
      Function.update cache.bumpedAt connection _ connection
    rw [Function.update_self, Function.update_self]

theorem retainFlights_does (thread : Nat) (connection : ConnectionId) :
    Does thread (Began thread connection) (.retainFlights connection)
      fun _ => Landed thread connection := by
  intro cache outside answer next inv began _ performed
  cases performed
  refine ⟨{ inv with landed_begun := ?_, returned_landed := ?_, flight_fresh := ?_ }, began, ?_⟩
  · exact reach_mono inv.landed_begun began
  · intro other
    exact Nat.le_trans (inv.returned_landed other) (le_reach ..)
  · intro ids flight found
    have kept := inv.flight_fresh ids flight (retain_some found).1
    exact ⟨kept.1, reach_le kept.2 fun same => absurd same (retain_some found).2⟩
  · show cache.began thread ≤ reach cache.landedAt connection _ connection
    rw [reach_self]
    exact Nat.le_max_right ..

theorem retainRecent_does (thread : Nat) (connection : ConnectionId) :
    Does thread (Landed thread connection) (.retainRecent connection)
      fun _ => Forgotten thread connection := by
  intro cache outside answer next inv landed _ performed
  cases performed
  refine ⟨{ inv with returned_forgotten := ?_, recent_fresh := ?_ }, landed.2, ?_⟩
  · intro other
    exact Nat.le_trans (inv.returned_forgotten other) (le_reach ..)
  · intro ids payload found
    have kept := inv.recent_fresh ids payload (retain_some found).1
    exact reach_le kept fun same => absurd same (retain_some found).2
  · show cache.began thread ≤ reach cache.forgottenAt connection _ connection
    rw [reach_self]
    exact Nat.le_max_right ..

theorem clearSchemaCache_does (thread : Nat) (connection : ConnectionId) :
    Does thread (Forgotten thread connection) (.clearSchemaCache connection)
      fun _ _ => True := by
  intro cache outside answer next inv forgotten clears performed
  cases performed
  refine ⟨{ inv with
    returned_landed := ?_
    returned_forgotten := ?_
    returned_cleared := ?_
    stored_fresh := ?_ }, trivial⟩
  · exact reach_mono inv.returned_landed forgotten.1
  · exact reach_mono inv.returned_forgotten forgotten.2
  · intro other
    by_cases same : other = connection
    · show reach _ _ _ other ≤ reach _ _ _ other
      rw [same, reach_self, reach_self]
      have before := inv.returned_cleared connection
      omega
    · show reach _ _ _ other ≤ reach _ _ _ other
      rw [reach_of_ne _ same, reach_of_ne _ same]
      exact inv.returned_cleared other
  · intro ids payload found
    change (if outside.storeFails then cache.stored
      else fun other => if other.connection = connection then none else cache.stored other) ids =
        some payload at found
    rw [show outside.storeFails = false from clears] at found
    simp only [Bool.false_eq_true, if_false, ite_eq_iff, reduceCtorEq, and_false, false_or] at found
    exact reach_le (inv.stored_fresh ids payload found.2) fun same => absurd same found.1

end Cache

open Cache

/-- What a program of the thread turns what it knows into. -/
abbrev Proves (thread : Nat) {α : Type} (prog : CacheProg α) (known : Cache → Prop)
    (result : α → Cache → Prop) : Prop :=
  Verified Cache.exec Cache.Inv WritesInTime thread prog known result

/-- An operation that needs to know nothing. -/
theorem plain_proves {thread : Nat} {op : CacheOp}
    (does : Does thread (fun _ => True) op fun _ _ => True) :
    Proves thread (.ask op) (fun _ => True) fun _ _ => True :=
  Verified.ask (stable_true thread) does

theorem done_proves {thread : Nat} {α : Type} {value : α} {known : Cache → Prop} :
    Proves thread (pure value) known fun _ _ => True :=
  Verified.done fun _ _ _ => trivial

/-- A program that needs to know nothing, from whatever is known. -/
theorem forget {thread : Nat} {α : Type} {prog : CacheProg α} {known : Cache → Prop}
    (proves : Proves thread prog (fun _ => True) fun _ _ => True) :
    Proves thread prog known fun _ _ => True :=
  proves.of_known fun _ _ _ => trivial

theorem invalidate_proves (thread : Nat) (connection : ConnectionId) :
    Proves thread (invalidate connection) (fun _ => True) fun _ _ => True := by
  apply Verified.bind (Verified.ask (stable_true thread) (bumpEpoch_does thread connection))
  intro _
  apply Verified.bind
    (Verified.ask (began_stable thread connection) (retainFlights_does thread connection))
  intro _
  apply Verified.bind
    (Verified.ask (landed_stable thread connection) (retainRecent_does thread connection))
  intro _
  exact Verified.ask (forgotten_stable thread connection) (clearSchemaCache_does thread connection)

/-- A call that comes back leaves the flights. -/
theorem finish_land_proves (thread id : Nat) (ids : Ids) (fetched : Except AppError Payload) :
    Proves thread (do
      let _ ← finish ids id
      let _ ← land id fetched
      return fetched) (fun _ => True) fun _ _ => True := by
  apply Verified.bind (plain_proves (finish_does thread ids id))
  intro _
  apply Verified.bind (plain_proves (land_does thread id fetched))
  exact fun _ => done_proves

theorem remember_proves (thread : Nat) (ids : Ids) (payload : Payload) :
    Proves thread (remember ids payload) (CheckedBy thread payload.since) fun _ _ => True := by
  apply Verified.bind
    (Verified.ask (checkedBy_stable thread payload.since) (rememberRecent_does thread ids payload))
  exact fun _ => plain_proves (rememberLive_does thread ids)

theorem flight_proves (thread : Nat) :
    Proves thread flight (fun _ => True) fun _ _ => True := by
  apply Verified.bind (Verified.ask (stable_true thread) (board_does thread))
  intro boarded
  obtain ⟨ids, id, captured⟩ := boarded
  apply Verified.bind (Verified.ask (captured_stable thread ids.connection captured)
    (beginFetch_does thread id captured ids.connection))
  intro since
  apply Verified.bind (Verified.ask (fenced_stable thread ids.connection captured since)
    (endFetch_does thread captured since ids.connection))
  intro fetched
  cases fetched with
  | error error => exact forget (finish_land_proves thread id ids _)
  | ok text =>
    apply Verified.bind (Verified.ask (fenced_stable thread ids.connection captured since)
      (epoch_does thread captured since ids.connection))
    intro current
    by_cases same : current = captured
    · simp only [same, if_true]
      have checked := checkedBy_stable thread since
      apply Verified.bind
        ((Verified.ask checked (persist_does thread ids ⟨text, since⟩)).of_known
          fun _ _ known => known trivial)
      intro _
      apply Verified.bind (remember_proves thread ids ⟨text, since⟩)
      intro _
      exact forget (finish_land_proves thread id ids _)
    · simp only [same, if_false]
      exact forget (finish_land_proves thread id ids _)

theorem revalidate_proves (thread flight : Nat) (connection : ConnectionId) (served : Payload) :
    Proves thread (revalidate flight connection served) (fun _ => True) fun _ _ => True := by
  apply Verified.bind (plain_proves (await_does thread flight))
  intro fetched
  cases fetched with
  | error error => exact done_proves
  | ok fresh =>
    by_cases same : fresh.text ≠ served.text
    · simp only [same, if_true, ne_eq, not_false_eq_true]
      exact plain_proves (notify_does thread connection)
    · simp only [same, if_false]
      exact done_proves

theorem loadLive_proves (thread : Nat) (reader : Reader) (ids : Ids) :
    Proves thread (loadLive reader ids) (fun _ => True) fun _ _ => True := by
  apply Verified.bind (plain_proves (start_does thread ids))
  intro flight
  apply Verified.bind (plain_proves (await_does thread flight))
  intro fetched
  cases fetched with
  | error error => exact done_proves
  | ok payload =>
    cases read : reader payload.text with
    | error complaint =>
      simp only [read]
      exact done_proves
    | ok _ =>
      simp only [read]
      exact done_proves

theorem loadStored_proves (thread : Nat) (reader : Reader) (ids : Ids) :
    Proves thread (loadStored reader ids) (fun _ => True) fun _ _ => True := by
  apply Verified.bind (plain_proves (isLive_does thread ids))
  intro live
  cases live with
  | true => exact forget (loadLive_proves thread reader ids)
  | false =>
    apply Verified.bind (plain_proves (readStored_does thread ids))
    intro stored
    cases stored with
    | none => exact forget (loadLive_proves thread reader ids)
    | some payload =>
      by_cases reads : readable reader payload = true
      · simp only [reads, if_true]
        apply Verified.bind (plain_proves (start_does thread ids))
        intro flight
        apply Verified.bind (revalidate_proves thread flight ids.connection payload)
        exact fun _ => done_proves
      · simp only [reads, Bool.false_eq_true, if_false]
        exact loadLive_proves thread reader ids

theorem loadByIds_proves (thread : Nat) (reader : Reader) (ids : Ids) (force : Bool) :
    Proves thread (loadByIds reader ids force) (fun _ => True) fun _ _ => True := by
  cases force with
  | true => exact loadLive_proves thread reader ids
  | false =>
    apply Verified.bind (plain_proves (recent_does thread ids))
    intro held
    cases held with
    | none => exact loadStored_proves thread reader ids
    | some payload =>
      by_cases reads : readable reader payload = true
      · simp only [reads, if_true]
        exact done_proves
      · simp only [reads, Bool.false_eq_true, if_false]
        exact loadStored_proves thread reader ids

theorem program_proves (thread : Nat) (command : Command) :
    Proves thread command.program (fun _ => True) fun _ _ => True := by
  cases command with
  | load reader ids force =>
    exact Verified.bind (loadByIds_proves thread reader ids force) fun _ => done_proves
  | flight => exact Verified.bind (flight_proves thread) fun _ => done_proves
  | invalidate connection => exact invalidate_proves thread connection

/-- Readers, calls in flight and invalidations of one cache. -/
abbrev cacheStep : Threads Cache CacheOp CacheOp.Answer Unit → Event Command Outside →
    Option (Threads Cache CacheOp CacheOp.Answer Unit) :=
  step Cache.exec Command.program

/-- Whatever was stored before the start: where calls write back in time, nothing fetched
before an invalidation is kept, shared or handed out once it has returned. -/
theorem never_stale (stored : Ids → Option Text) (events : List (Event Command Outside))
    (in_time : Machine.Along cacheStep (Meets WritesInTime)
      (Interleaving.start (Cache.start stored)) events) :
    Machine.Throughout cacheStep (fun threads => threads.shared.NeverStale)
      (Interleaving.start (Cache.start stored)) events :=
  (throughout_inv program_proves (start_inv stored) in_time).mono fun _ inv => inv.neverStale

def someConnection : ConnectionId := ⟨"c1".toList, by decide⟩

def someCatalog : Ids := ⟨someConnection, "main".toList, "catalog".toList⟩

/-- The store works, the adapter answers, and the first call is the one that is polled. -/
def answering : Outside := ⟨true, false, .ok "[1]".toList, 0⟩

/-- A forced load, its call up to the epoch check. -/
def fetched : List (Event Command Outside) :=
  [.call 0 (.load (fun _ => .ok ()) someCatalog true), .go 0 answering, .call 1 .flight,
    .go 1 answering, .go 1 answering, .go 1 answering, .go 1 answering]

def swept : List (Event Command Outside) :=
  .call 2 (.invalidate someConnection) :: List.replicate 4 (.go 2 answering)

/-- A call that has written its answer back before an invalidation begins. -/
theorem written_then_swept : Machine.Throughout cacheStep
    (fun threads => threads.shared.NeverStale)
    (Interleaving.start (Cache.start fun _ => none))
    (fetched ++ List.replicate 2 (.go 1 answering) ++ swept) := by
  apply never_stale
  apply Machine.along_step rfl trivial
  apply Machine.along_step rfl (meets_go rfl trivial)
  apply Machine.along_step rfl trivial
  apply Machine.along_step rfl (meets_go rfl trivial)
  apply Machine.along_step rfl (meets_go rfl trivial)
  apply Machine.along_step rfl (meets_go rfl trivial)
  apply Machine.along_step rfl (meets_go rfl trivial)
  apply Machine.along_step rfl (meets_go rfl (Nat.zero_le _))
  apply Machine.along_step rfl (meets_go rfl (Nat.zero_le _))
  apply Machine.along_step rfl trivial
  apply Machine.along_step rfl (meets_go rfl trivial)
  apply Machine.along_step rfl (meets_go rfl trivial)
  apply Machine.along_step rfl (meets_go rfl trivial)
  exact Machine.along_step rfl (meets_go rfl rfl) trivial

/-- A whole invalidation between the epoch check of a call and its write: the stale answer
is stored after all. -/
theorem swept_then_written : ¬Machine.Throughout cacheStep
    (fun threads => threads.shared.NeverStale)
    (Interleaving.start (Cache.start fun _ => none))
    (fetched ++ swept ++ [.go 1 answering]) := by
  intro holds
  have after := holds.last rfl
  have late : 1 ≤ 0 := after.stored someCatalog ⟨"[1]".toList, 0⟩ rfl
  exact absurd late (by decide)

end DbFree.SchemaCache
