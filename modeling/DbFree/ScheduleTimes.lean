import DbFree.WorkflowModel

/- When a Schedule node fires next (services/workflows/schedule.rs). Instants are nanoseconds and
wall times minutes, both since 1970-01-01T00:00:00. -/
namespace DbFree.Workflows.Schedule

open Texts

def second : Int := 1000000000

def minIntervalSeconds : Nat := 10

def unitSeconds : IntervalUnit → Nat
  | .seconds => 1
  | .minutes => 60
  | .hours => 3600
  | .days => 86400

def intervalSeconds (config : ScheduleConfig) : Option Nat :=
  if config.intervalAmount = 0 then none
  else
    some (max (config.intervalAmount.toNat * unitSeconds config.intervalUnit) minIntervalSeconds)

theorem minIntervalSeconds_le {config : ScheduleConfig} {seconds : Nat}
    (set : intervalSeconds config = some seconds) : minIntervalSeconds ≤ seconds := by
  rw [intervalSeconds] at set
  split at set
  · cases set
  · cases set
    exact le_max_right _ _

/-- `str::split_once`. -/
def splitOnce (mark : Char) (text : Text) : Option (Text × Text) :=
  match text.span (· ≠ mark) with
  | (before, _ :: after) => some (before, after)
  | (_, []) => none

/-- `str::parse::<u32>`. -/
def parseU32 (word : Text) : Option Nat :=
  let digits := if word.head? = some '+' then word.tail else word
  if digits = [] ∨ ¬digits.all Char.isDigit then none
  else
    let value := digits.foldl (fun value digit => value * 10 + (digit.toNat - '0'.toNat)) 0
    if value < 2 ^ 32 then some value else none

def parseTime (text : Text) : Option (Nat × Nat) := do
  let (h, m) ← splitOnce ':' (trim text)
  let h ← parseU32 (trim h)
  let m ← parseU32 (trim m)
  if h < 24 ∧ m < 60 then some (h, m) else none

/-- What a wall time is in a zone: one instant, two where the clocks go back, none where they
jump forward. -/
inductive LocalResult where
  | single (instant : Int)
  | ambiguous (first second : Int)
  | none

/-- What the calendar library, the machine's settings and the serializer decide. -/
structure Surroundings (Zone Signature : Type) where
  /-- The last instant and the last day that can be represented. -/
  latest : Int
  lastDay : Int
  machineZone : Zone
  zoneNamed : Text → Option Zone
  /-- The day of an instant in a zone. -/
  localDay : Zone → Int → Int
  fromLocal : Zone → Int → LocalResult
  signature : ScheduleConfig → Signature
  signature_injective : Function.Injective signature

/-- 1970-01-01 was a Thursday. -/
def weekday (day : Int) : Weekday :=
  match ((day + 3) % 7).toNat with
  | 0 => .mon
  | 1 => .tue
  | 2 => .wed
  | 3 => .thu
  | 4 => .fri
  | 5 => .sat
  | _ => .sun

section Surrounded

variable {Zone Signature : Type} (around : Surroundings Zone Signature)

/-- Why a schedule can never fire; `none` when it is fine. -/
def problem (config : ScheduleConfig) : Option Text :=
  match config.mode with
  | .interval =>
    if (intervalSeconds config).isNone then some "The interval must be at least 1.".toList else none
  | .atTime =>
    if (parseTime config.time).isNone then some "The time must be HH:MM, 24-hour.".toList
    else if config.days = [] then some "Pick at least one weekday.".toList
    else if trim config.timezone ≠ [] ∧ (around.zoneNamed (trim config.timezone)).isNone then
      some ('"' :: trim config.timezone ++ "\" is not a time zone name.".toList)
    else none

/-- A wall time in a zone as an instant: the first of two, and the first quarter of an hour
after it that exists where the clocks jump forward. -/
def resolve (zone : Zone) : Nat → Int → Option Int
  | 0, _ => none
  | tries + 1, candidate =>
    match around.fromLocal zone candidate with
    | .single instant => some instant
    | .ambiguous first _ => some first
    | .none =>
      if candidate + 15 < (around.lastDay + 1) * 1440 then resolve zone tries (candidate + 15)
      else none

/-- The first fire on one of the days after `today`, for the offsets in turn. -/
def nextAtTime (zone : Zone) (hour minute : Nat) (days : List Weekday) (after today : Int) :
    List Nat → Option Int
  | [] => none
  | offset :: rest =>
    let date := today + offset
    if around.lastDay < date then none
    else if weekday date ∉ days then nextAtTime zone hour minute days after today rest
    else
      match resolve around zone 9 (date * 1440 + hour * 60 + minute) with
      | some instant =>
        if after < instant then some instant
        else nextAtTime zone hour minute days after today rest
      | none => nextAtTime zone hour minute days after today rest

/-- The zone of a schedule: blank is the machine's own. -/
def zoneOf (config : ScheduleConfig) : Option Zone :=
  if trim config.timezone = [] then some around.machineZone
  else around.zoneNamed (trim config.timezone)

/-- The first fire time strictly after `after`. -/
def nextFire (config : ScheduleConfig) (after : Int) : Option Int :=
  match config.mode with
  | .interval => do
    -- At most 2 ^ 32 days: no overflow but that of the instant.
    let seconds ← intervalSeconds config
    let next := after + seconds * second
    if next ≤ around.latest then some next else none
  | .atTime =>
    if (problem around config).isSome then none
    else do
      let (hour, minute) ← parseTime config.time
      let zone ← zoneOf around config
      nextAtTime around zone hour minute config.days after (around.localDay zone after)
        (List.range 15)

/-- How far apart the fires of a schedule are at least; those at a time of day have no interval. -/
def interval (config : ScheduleConfig) : Int :=
  match config.mode with
  | .interval => (intervalSeconds config).getD 0 * second
  | .atTime => 0

variable {around}

theorem nextAtTime_after {zone : Zone} {hour minute : Nat} {days : List Weekday}
    {after today next : Int} {offsets : List Nat}
    (found : nextAtTime around zone hour minute days after today offsets = some next) :
    after < next := by
  induction offsets with
  | nil => cases found
  | cons offset rest hypothesis =>
    rw [nextAtTime] at found
    split at found
    · cases found
    · split at found
      · exact hypothesis found
      · split at found
        · split at found
          · cases found
            assumption
          · exact hypothesis found
        · exact hypothesis found

/-- A fire lies after the moment it is counted from, by the interval if there is one. -/
theorem nextFire_spec {config : ScheduleConfig} {after next : Int}
    (found : nextFire around config after = some next) :
    after < next ∧ after + interval config ≤ next := by
  rw [nextFire] at found
  rw [interval]
  cases mode : config.mode with
  | interval =>
    simp only [mode] at found ⊢
    obtain ⟨seconds, set, found⟩ := Option.bind_eq_some_iff.mp found
    have enough := minIntervalSeconds_le set
    split at found
    · cases found
      rw [set, Option.getD_some]
      simp only [minIntervalSeconds, second] at enough ⊢
      omega
    · cases found
  | atTime =>
    simp only [mode] at found ⊢
    split at found
    · cases found
    · obtain ⟨time, -, found⟩ := Option.bind_eq_some_iff.mp found
      obtain ⟨zone, -, found⟩ := Option.bind_eq_some_iff.mp found
      have later := nextAtTime_after found
      omega

end Surrounded

end DbFree.Workflows.Schedule
