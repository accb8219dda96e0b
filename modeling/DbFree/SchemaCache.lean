import DbFree.Interleaving
import DbFree.Errors

/- The schema cache: answers of the last seconds in memory, the store behind them, and
the live fetch that concurrent callers share. Each critical section is one operation. -/
namespace DbFree.SchemaCache

open Interleaving

def sep : Char := '\u001f'

/-- The id of a saved connection: a UUID, so the separator of keys is not in it. -/
structure ConnectionId where
  text : Text
  plain : sep ∉ text
deriving DecidableEq

structure Ids where
  connection : ConnectionId
  «namespace» : Text
  scope : Text
deriving DecidableEq

def connectionPrefix (connection : ConnectionId) : Text := connection.text ++ [sep]

def Ids.key (ids : Ids) : Text :=
  ids.connection.text ++ [sep] ++ ids.namespace ++ [sep] ++ ids.scope

/-- An answer of the adapter, and how many invalidations had begun when its fetch started. -/
structure Payload where
  text : Text
  since : Nat
deriving DecidableEq

/-- The in-memory half, the store's half, and what has happened in the run so far. -/
structure Cache where
  /-- The running call of a key. -/
  flights : Text → Option Nat
  nextFlight : Nat
  recent : Text → Option Payload
  live : Text → Bool
  epochs : ConnectionId → Nat
  stored : Ids → Option Payload
  /-- Calls that were made but not begun: what they load, and the epoch they captured. -/
  created : Nat → Option (Ids × Nat)
  /-- Calls that have come back. -/
  landed : Nat → Option (Except AppError Payload)
  notified : List ConnectionId
  /-- The number of invalidations that have begun, and the latest one of a connection. -/
  invalidations : Nat
  bumpedAt : ConnectionId → Nat
  /-- The latest invalidation that has been through the flights, the memory and the store. -/
  landedAt : ConnectionId → Nat
  forgottenAt : ConnectionId → Nat
  clearedAt : ConnectionId → Nat
  /-- The latest invalidation of a connection that has returned. -/
  invalidatedAt : ConnectionId → Nat
  /-- The invalidation a thread is at. -/
  began : Nat → Nat
  /-- The latest invalidation that had begun when a thread last read an epoch. -/
  checked : Nat → Nat
  /-- When a call was made, and when its fetch started. -/
  madeAt : Nat → Nat
  fetchingSince : Nat → Option Nat
  /-- The cache handed out something fetched before an invalidation that had returned. -/
  servedStale : Bool

/-- How things stand outside the cache. -/
structure Outside where
  /-- The entry in memory is younger than `FRESH_FOR`. -/
  fresh : Bool
  /-- The local store fails. -/
  storeFails : Bool
  /-- What the adapter answers, or why it does not in time. -/
  fetched : Except AppError Text
  /-- The call that is polled for the first time. -/
  polled : Nat

inductive CacheOp where
  | recent (ids : Ids)
  | isLive (ids : Ids)
  | readStored (ids : Ids)
  /-- Joins the running call of the key, or makes one under the current epoch. -/
  | start (ids : Ids)
  | await (flight : Nat)
  /-- A call that was made is polled for the first time. -/
  | board
  | beginFetch (flight : Nat)
  | endFetch
  | epoch (connection : ConnectionId)
  | persist (ids : Ids) (payload : Payload)
  | rememberRecent (ids : Ids) (payload : Payload)
  | rememberLive (ids : Ids)
  | finish (ids : Ids) (flight : Nat)
  | land (flight : Nat) (fetched : Except AppError Payload)
  | notify (connection : ConnectionId)
  | bumpEpoch (connection : ConnectionId)
  | retainFlights (connection : ConnectionId)
  | retainRecent (connection : ConnectionId)
  | clearSchemaCache (connection : ConnectionId)

abbrev CacheOp.Answer : CacheOp → Type
  | .recent _ => Option Payload
  | .isLive _ => Bool
  | .readStored _ => Option Payload
  | .start _ => Nat
  | .await _ => Except AppError Payload
  | .board => Ids × Nat × Nat
  | .beginFetch _ => Nat
  | .endFetch => Except AppError Text
  | .epoch _ => Nat
  | _ => Unit

namespace Cache

/-- A start of the program over what an earlier one has stored. -/
def start (stored : Ids → Option Text) : Cache where
  flights _ := none
  nextFlight := 0
  recent _ := none
  live _ := false
  epochs _ := 0
  stored ids := (stored ids).map fun text => ⟨text, 0⟩
  created _ := none
  landed _ := none
  notified := []
  invalidations := 0
  bumpedAt _ := 0
  landedAt _ := 0
  forgottenAt _ := 0
  clearedAt _ := 0
  invalidatedAt _ := 0
  began _ := 0
  checked _ := 0
  madeAt _ := 0
  fetchingSince _ := none
  servedStale := false

/-- The cache hands out what was fetched at this time. -/
def serve (cache : Cache) (connection : ConnectionId) (since : Option Nat) : Cache :=
  match since with
  | some since =>
    { cache with
      servedStale := cache.servedStale || decide (since < cache.invalidatedAt connection) }
  | none => cache

def makeFlight (cache : Cache) (ids : Ids) : Cache :=
  { cache with
    flights := Function.update cache.flights ids.key (some cache.nextFlight)
    nextFlight := cache.nextFlight + 1
    created :=
      Function.update cache.created cache.nextFlight (some (ids, cache.epochs ids.connection))
    madeAt := Function.update cache.madeAt cache.nextFlight cache.invalidations
    fetchingSince := Function.update cache.fetchingSince cache.nextFlight none }

/-- `retain` of the keys that do not start with the prefix. -/
def retain {α : Type} (map : Text → Option α) (connection : ConnectionId) : Text → Option α :=
  fun key => if (connectionPrefix connection).isPrefixOf key then none else map key

/-- The later of what is noted for the connection and the invalidation. -/
def reach (times : ConnectionId → Nat) (connection : ConnectionId) (time : Nat) :
    ConnectionId → Nat :=
  Function.update times connection (max (times connection) time)

def exec (thread : Nat) (cache : Cache) : (op : CacheOp) → Outside → Option (op.Answer × Cache)
  | .recent ids, outside =>
    match cache.recent ids.key with
    | some payload =>
      if outside.fresh then some (some payload, cache.serve ids.connection (some payload.since))
      else some (none, cache)
    | none => some (none, cache)
  | .isLive ids, _ => some (cache.live ids.key, cache)
  | .readStored ids, outside =>
    if outside.storeFails then some (none, cache)
    else
      some (cache.stored ids, cache.serve ids.connection ((cache.stored ids).map Payload.since))
  | .start ids, _ =>
    match cache.flights ids.key with
    | some running => some (running, cache.serve ids.connection (cache.fetchingSince running))
    | none => some (cache.nextFlight, cache.makeFlight ids)
  | .await flight, _ => (cache.landed flight).map fun fetched => (fetched, cache)
  | .board, outside =>
    (cache.created outside.polled).map fun made =>
      ((made.1, outside.polled, made.2),
        { cache with created := Function.update cache.created outside.polled none })
  | .beginFetch flight, _ =>
    some (cache.invalidations, { cache with
      fetchingSince := Function.update cache.fetchingSince flight (some cache.invalidations) })
  | .endFetch, outside => some (outside.fetched, cache)
  | .epoch connection, _ =>
    some (cache.epochs connection, { cache with
      checked := Function.update cache.checked thread (cache.bumpedAt connection) })
  | .persist ids payload, outside =>
    if outside.storeFails then some ((), cache)
    else some ((), { cache with stored := Function.update cache.stored ids (some payload) })
  | .rememberRecent ids payload, _ =>
    some ((), { cache with recent := Function.update cache.recent ids.key (some payload) })
  | .rememberLive ids, _ =>
    some ((), { cache with live := Function.update cache.live ids.key true })
  | .finish ids flight, _ =>
    if cache.flights ids.key = some flight then
      some ((), { cache with flights := Function.update cache.flights ids.key none })
    else some ((), cache)
  | .land flight fetched, _ =>
    some ((), { cache with landed := Function.update cache.landed flight (some fetched) })
  | .notify connection, _ =>
    some ((), { cache with notified := connection :: cache.notified })
  | .bumpEpoch connection, _ =>
    some ((), { cache with
      epochs := Function.update cache.epochs connection (cache.epochs connection + 1)
      invalidations := cache.invalidations + 1
      bumpedAt := Function.update cache.bumpedAt connection (cache.invalidations + 1)
      began := Function.update cache.began thread (cache.invalidations + 1) })
  | .retainFlights connection, _ =>
    some ((), { cache with
      flights := retain cache.flights connection
      landedAt := reach cache.landedAt connection (cache.began thread) })
  | .retainRecent connection, _ =>
    some ((), { cache with
      recent := retain cache.recent connection
      forgottenAt := reach cache.forgottenAt connection (cache.began thread) })
  | .clearSchemaCache connection, outside =>
    -- A store that fails is only logged, and `invalidate` returns all the same.
    some ((), { cache with
      stored := if outside.storeFails then cache.stored
        else fun ids => if ids.connection = connection then none else cache.stored ids
      clearedAt := reach cache.clearedAt connection (cache.began thread)
      invalidatedAt := reach cache.invalidatedAt connection (cache.began thread) })

end Cache

abbrev CacheProg := Prog CacheOp CacheOp.Answer

def recent (ids : Ids) : CacheProg (Option Payload) := .ask (CacheOp.recent ids)
def isLive (ids : Ids) : CacheProg Bool := .ask (CacheOp.isLive ids)
def readStored (ids : Ids) : CacheProg (Option Payload) := .ask (CacheOp.readStored ids)
def start (ids : Ids) : CacheProg Nat := .ask (CacheOp.start ids)
def await (flight : Nat) : CacheProg (Except AppError Payload) := .ask (CacheOp.await flight)
def board : CacheProg (Ids × Nat × Nat) := .ask CacheOp.board
def beginFetch (flight : Nat) : CacheProg Nat := .ask (CacheOp.beginFetch flight)
def endFetch : CacheProg (Except AppError Text) := .ask CacheOp.endFetch
def epoch (connection : ConnectionId) : CacheProg Nat := .ask (CacheOp.epoch connection)
def persist (ids : Ids) (payload : Payload) : CacheProg Unit :=
  .ask (CacheOp.persist ids payload)
def finish (ids : Ids) (flight : Nat) : CacheProg Unit := .ask (CacheOp.finish ids flight)
def land (flight : Nat) (fetched : Except AppError Payload) : CacheProg Unit :=
  .ask (CacheOp.land flight fetched)
def notify (connection : ConnectionId) : CacheProg Unit := .ask (CacheOp.notify connection)

def remember (ids : Ids) (payload : Payload) : CacheProg Unit := do
  let _ : Unit ← .ask (CacheOp.rememberRecent ids payload)
  .ask (CacheOp.rememberLive ids)

def invalidate (connection : ConnectionId) : CacheProg Unit := do
  let _ : Unit ← .ask (CacheOp.bumpEpoch connection)
  let _ : Unit ← .ask (CacheOp.retainFlights connection)
  let _ : Unit ← .ask (CacheOp.retainRecent connection)
  .ask (CacheOp.clearSchemaCache connection)

/-- The body of a call, from its first poll on. -/
def flight : CacheProg (Except AppError Payload) := do
  let (ids, id, captured) ← board
  let since ← beginFetch id
  let fetched := (← endFetch).map fun text => (⟨text, since⟩ : Payload)
  match fetched with
  | .ok payload =>
    if (← epoch ids.connection) = captured then
      let _ ← persist ids payload
      let _ ← remember ids payload
      let _ ← finish ids id
      let _ ← land id fetched
      return fetched
    else
      let _ ← finish ids id
      let _ ← land id fetched
      return fetched
  | .error _ =>
    let _ ← finish ids id
    let _ ← land id fetched
    return fetched

/-- The reader of the answer's type, with its complaint about a text it cannot read. -/
abbrev Reader := Text → Except Text Unit

def revalidate (flight : Nat) (connection : ConnectionId) (served : Payload) :
    CacheProg Unit := do
  match ← await flight with
  | .ok fresh => if fresh.text ≠ served.text then notify connection else return ()
  | .error _ => return ()

def readable (reader : Reader) (payload : Payload) : Bool :=
  match reader payload.text with
  | .ok () => true
  | .error _ => false

/-- The live answer, shared with whoever asks while the call runs. -/
def loadLive (reader : Reader) (ids : Ids) : CacheProg (Except AppError Payload) := do
  match ← await (← start ids) with
  | .error error => return .error error
  | .ok payload =>
    match reader payload.text with
    | .ok () => return .ok payload
    | .error complaint => return .error (.internal complaint)

/-- What the store kept from an earlier start, with the revalidation behind it. -/
def loadStored (reader : Reader) (ids : Ids) : CacheProg (Except AppError Payload) := do
  if ← isLive ids then loadLive reader ids
  else
    match ← readStored ids with
    | some stored =>
      if readable reader stored then
        let flight ← start ids
        -- The source spawns this; the answer was handed out when it was read.
        let _ ← revalidate flight ids.connection stored
        return .ok stored
      else loadLive reader ids
    | none => loadLive reader ids

def loadByIds (reader : Reader) (ids : Ids) (force : Bool) :
    CacheProg (Except AppError Payload) := do
  if force then loadLive reader ids
  else
    match ← recent ids with
    | some payload => if readable reader payload then return .ok payload else loadStored reader ids
    | none => loadStored reader ids

inductive Command where
  | load (reader : Reader) (ids : Ids) (force : Bool)
  | flight
  | invalidate (connection : ConnectionId)

def Command.program : Command → CacheProg Unit
  | .load reader ids force => do
    let _ ← loadByIds reader ids force
    return ()
  | .flight => do
    let _ ← SchemaCache.flight
    return ()
  | .invalidate connection => SchemaCache.invalidate connection

end DbFree.SchemaCache
