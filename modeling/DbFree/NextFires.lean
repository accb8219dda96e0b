import Mathlib.Data.Int.LeastGreatest
import Mathlib.Order.Bounds.Basic
import DbFree.ScheduleTimes

/- When a schedule is due by the clock of its zone, and when it fires
(services/workflows/schedule.rs). -/
namespace DbFree.Workflows.Schedule

def perMinute : Int := 60 * second

section Clocks

variable {Zone Signature : Type} (around : Surroundings Zone Signature)

/-- A clock, as what it is off UTC at each instant, shows this minute at its start. -/
def Shows (clock : Int → Int) (wall instant : Int) : Prop :=
  instant ≤ around.latest ∧ wall < (around.lastDay + 1) * 1440 ∧
    instant + clock instant = wall * perMinute

def Shown (clock : Int → Int) (wall : Int) : Prop := ∃ instant, Shows around clock wall instant

/-- The day that a clock shows. -/
def today (clock : Int → Int) (instant : Int) : Int :=
  (instant + clock instant) / (1440 * perMinute)

/-- What is known of a zone: its day, and of a local time the first instant that shows it. -/
structure Describes (zone : Zone) (clock : Int → Int) : Prop where
  day : ∀ instant, around.localDay zone instant = today clock instant
  none : ∀ wall, wall < (around.lastDay + 1) * 1440 → around.fromLocal zone wall = .none →
    ¬Shown around clock wall
  single : ∀ wall instant, wall < (around.lastDay + 1) * 1440 →
    around.fromLocal zone wall = .single instant →
      IsLeast {t | Shows around clock wall t} instant
  ambiguous : ∀ wall first second, wall < (around.lastDay + 1) * 1440 →
    around.fromLocal zone wall = .ambiguous first second →
      IsLeast {t | Shows around clock wall t} first

/-- The first minute from this one on that the clock shows at all. -/
def Exists (clock : Int → Int) (wall shown : Int) : Prop :=
  IsLeast {m | wall ≤ m ∧ Shown around clock m} shown

/-- When a time of a day counts: where it occurs twice at the first of them, and where it is
skipped at the first minute that exists after the gap. -/
def Counts (clock : Int → Int) (wall instant : Int) : Prop :=
  ∃ shown, Exists around clock wall shown ∧ IsLeast {t | Shows around clock shown t} instant

/-- The first step of quarter hours from a time on, two hours at most, that the clock shows. -/
def Steps (clock : Int → Int) (wall instant : Int) : Prop :=
  ∃ k < 9, IsLeast {k : Nat | Shown around clock (wall + 15 * k)} k ∧
    IsLeast {t | Shows around clock (wall + 15 * k) t} instant

variable {around} {zone : Zone} {clock : Int → Int}

theorem shows_unique {wall wall' instant : Int} (shows : Shows around clock wall instant)
    (shows' : Shows around clock wall' instant) : wall = wall' := by
  have same : wall * perMinute = wall' * perMinute := shows.2.2.symm.trans shows'.2.2
  exact Int.eq_of_mul_eq_mul_right (by decide) same

theorem steps_unique {wall instant instant' : Int} (steps : Steps around clock wall instant)
    (steps' : Steps around clock wall instant') : instant = instant' := by
  obtain ⟨k, -, first, least⟩ := steps
  obtain ⟨k', -, first', least'⟩ := steps'
  obtain rfl := first.unique first'
  exact least.unique least'

theorem resolve_spec (describes : Describes around zone clock) (tries : Nat) {wall : Int}
    (inside : wall < (around.lastDay + 1) * 1440) (instant : Int) :
    resolve around zone tries wall = some instant ↔
      ∃ k < tries, IsLeast {k : Nat | Shown around clock (wall + 15 * k)} k ∧
        IsLeast {t | Shows around clock (wall + 15 * k) t} instant := by
  induction tries generalizing wall with
  | zero =>
    refine iff_of_false (fun found => by cases found) ?_
    rintro ⟨k, below, -⟩
    exact absurd below (Nat.not_lt_zero k)
  | succ tries hypothesis =>
    have here : wall + 15 * ((0 : Nat) : Int) = wall := by omega
    -- A time that is shown is taken at once.
    have taken : ∀ first, IsLeast {t | Shows around clock wall t} first →
        (some first = some instant ↔
          ∃ k < tries + 1, IsLeast {k : Nat | Shown around clock (wall + 15 * k)} k ∧
            IsLeast {t | Shows around clock (wall + 15 * k) t} instant) := by
      intro first least
      have zero_least : IsLeast {k : Nat | Shown around clock (wall + 15 * k)} 0 := by
        refine ⟨?_, fun k _ => Nat.zero_le k⟩
        rw [Set.mem_ofPred_eq, here]
        exact ⟨first, least.1⟩
      rw [Option.some_inj]
      constructor
      · rintro rfl
        exact ⟨0, Nat.succ_pos tries, zero_least, by rw [here]; exact least⟩
      · rintro ⟨k, -, isFirst, least'⟩
        obtain rfl := zero_least.unique isFirst
        rw [here] at least'
        exact least.unique least'
    rw [resolve]
    cases local_ : around.fromLocal zone wall with
    | single first => exact taken first (describes.single wall first inside local_)
    | ambiguous first second =>
      exact taken first (describes.ambiguous wall first second inside local_)
    | none =>
      dsimp only
      have skipped := describes.none wall inside local_
      have shift : ∀ k : Nat, wall + 15 * ((k + 1 : Nat) : Int) = wall + 15 + 15 * k := by omega
      have positive : ∀ k : Nat, Shown around clock (wall + 15 * k) → k ≠ 0 := by
        rintro k shown rfl
        rw [here] at shown
        exact skipped shown
      split
      · rename_i further
        rw [hypothesis further]
        constructor
        · rintro ⟨k, below, isFirst, least⟩
          refine ⟨k + 1, Nat.succ_lt_succ below, ⟨?_, ?_⟩, ?_⟩
          · rw [Set.mem_ofPred_eq, shift]
            exact isFirst.1
          · intro j shown
            obtain ⟨j, rfl⟩ := Nat.exists_eq_succ_of_ne_zero (positive j shown)
            rw [Set.mem_ofPred_eq, Nat.succ_eq_add_one, shift] at shown
            exact Nat.succ_le_succ (isFirst.2 shown)
          · rw [shift]
            exact least
        · rintro ⟨k, below, isFirst, least⟩
          obtain ⟨k, rfl⟩ := Nat.exists_eq_succ_of_ne_zero (positive k isFirst.1)
          rw [Nat.succ_eq_add_one, shift] at least
          refine ⟨k, Nat.lt_of_succ_lt_succ below, ⟨?_, ?_⟩, least⟩
          · have shown := isFirst.1
            rw [Set.mem_ofPred_eq, Nat.succ_eq_add_one, shift] at shown
            exact shown
          · intro j shown
            rw [Set.mem_ofPred_eq, ← shift] at shown
            exact Nat.le_of_succ_le_succ (isFirst.2 shown)
      · rename_i beyond
        refine iff_of_false (fun found => by cases found) ?_
        rintro ⟨k, -, isFirst, -⟩
        obtain ⟨t, -, bound, -⟩ := isFirst.1
        have := positive k isFirst.1
        omega

end Clocks

section Days

variable {Zone Signature : Type} (around : Surroundings Zone Signature) (clock : Int → Int)
  (days : List Weekday) (hour minutes : Nat) (after : Int)

def wallOf (day : Int) : Int := day * 1440 + hour * 60 + minutes

/-- The instants after this one at which the time of a chosen day counts. -/
def Due : Set Int :=
  {x | ∃ day, day ≤ around.lastDay ∧ weekday day ∈ days ∧
    Counts around clock (wallOf hour minutes day) x ∧ after < x}

/-- A chosen day whose first step is after this instant. -/
def Late (day instant : Int) : Prop :=
  day ≤ around.lastDay ∧ weekday day ∈ days ∧
    Steps around clock (wallOf hour minutes day) instant ∧ after < instant

/-- The first of some days in a row that is late. -/
def FirstLate (start : Int) (count : Nat) (instant : Int) : Prop :=
  ∃ day, start ≤ day ∧ day < start + count ∧
    Late around clock days hour minutes after day instant ∧
      ∀ earlier, start ≤ earlier → earlier < day →
        ∀ other, ¬Late around clock days hour minutes after earlier other

variable {around clock days hour minutes after}

theorem firstLate_unique {start instant instant' : Int} {count : Nat}
    (first : FirstLate around clock days hour minutes after start count instant)
    (first' : FirstLate around clock days hour minutes after start count instant') :
    instant = instant' := by
  obtain ⟨day, lower, -, late, before⟩ := first
  obtain ⟨day', lower', -, late', before'⟩ := first'
  rcases lt_trichotomy day day' with less | rfl | more
  · exact absurd late (before' day lower less instant)
  · exact steps_unique late.2.2.1 late'.2.2.1
  · exact absurd late' (before day' lower' more instant')

theorem firstLate_skip {start instant : Int} {count : Nat}
    (early : ∀ other, ¬Late around clock days hour minutes after start other) :
    FirstLate around clock days hour minutes after start (count + 1) instant ↔
      FirstLate around clock days hour minutes after (start + 1) count instant := by
  constructor
  · rintro ⟨day, lower, upper, late, before⟩
    have other : day ≠ start := by
      rintro rfl
      exact early instant late
    exact ⟨day, by omega, by omega, late, fun d first last => before d (by omega) last⟩
  · rintro ⟨day, lower, upper, late, before⟩
    refine ⟨day, by omega, by omega, late, fun d first last => ?_⟩
    by_cases same : d = start
    · rw [same]
      exact early
    · exact before d (by omega) last

theorem firstLate_head {start instant instant' : Int} {count : Nat}
    (late : Late around clock days hour minutes after start instant) :
    some instant = some instant' ↔
      FirstLate around clock days hour minutes after start (count + 1) instant' := by
  have first : FirstLate around clock days hour minutes after start (count + 1) instant :=
    ⟨start, le_refl start, by omega, late, fun d lower upper => absurd upper (by omega)⟩
  rw [Option.some_inj]
  constructor
  · rintro rfl
    exact first
  · exact firstLate_unique first

theorem firstLate_exists {start : Int} {count : Nat} {day instant : Int} (lower : start ≤ day)
    (upper : day < start + count) (late : Late around clock days hour minutes after day instant) :
    ∃ first, FirstLate around clock days hour minutes after start count first := by
  induction count generalizing start with
  | zero => omega
  | succ count hypothesis =>
    by_cases early : ∃ other, Late around clock days hour minutes after start other
    · obtain ⟨other, here⟩ := early
      exact ⟨other, (firstLate_head here).mp rfl⟩
    · have other : day ≠ start := by
        rintro rfl
        exact early ⟨instant, late⟩
      obtain ⟨first, found⟩ := @hypothesis (start + 1) (by omega) (by omega)
      exact ⟨first, (firstLate_skip fun x here => early ⟨x, here⟩).mpr found⟩

variable {zone : Zone}

theorem nextAtTime_spec (describes : Describes around zone clock) (hourBound : hour < 24)
    (minuteBound : minutes < 60) (day : Int) (count start : Nat) (instant : Int) :
    nextAtTime around zone hour minutes days after day (List.range' start count) = some instant ↔
      FirstLate around clock days hour minutes after (day + start) count instant := by
  induction count generalizing start with
  | zero =>
    refine iff_of_false (fun found => by cases found) ?_
    rintro ⟨d, lower, upper, -⟩
    omega
  | succ count hypothesis =>
    have next := hypothesis (start + 1)
    have step : day + ((start + 1 : Nat) : Int) = day + start + 1 := by omega
    rw [step] at next
    rw [List.range'_succ, nextAtTime]
    split
    · rename_i beyond
      refine iff_of_false (fun found => by cases found) ?_
      rintro ⟨d, lower, -, ⟨inside, -⟩, -⟩
      omega
    · rename_i within
      split
      · rename_i other
        rw [next, firstLate_skip fun x late => other late.2.1]
      · rename_i chosen
        rw [not_not] at chosen
        have bound : wallOf hour minutes (day + start) < (around.lastDay + 1) * 1440 := by
          rw [wallOf]
          omega
        have spec := resolve_spec describes 9 bound
        rw [wallOf] at spec
        split
        · rename_i x resolved
          have steps : Steps around clock (wallOf hour minutes (day + start)) x :=
            (spec x).mp resolved
          split
          · rename_i later
            exact firstLate_head ⟨by omega, chosen, steps, later⟩
          · rename_i sooner
            rw [next, firstLate_skip]
            intro y late
            rw [steps_unique steps late.2.2.1] at sooner
            exact sooner late.2.2.2
        · rename_i unresolved
          rw [next, firstLate_skip]
          intro y late
          have resolved := (spec y).mpr late.2.2.1
          rw [unresolved] at resolved
          cases resolved

end Days

section Fires

variable {Zone Signature : Type} (around : Surroundings Zone Signature)

/-- The first minute that exists from a time on is a number of quarter hours from it. -/
def OnQuarter (clock : Int → Int) (wall : Int) : Prop :=
  ∃ k : Nat, k < 9 ∧ Exists around clock wall (wall + 15 * k)

/-- What is due next is due on one of fifteen days, on a quarter hour from its time, and no day
before it is late; or nothing is due, and no day is late. -/
def Reached (clock : Int → Int) (days : List Weekday) (hour minutes : Nat) (after : Int) : Prop :=
  (∃ day instant, IsLeast (Due around clock days hour minutes after) instant ∧
      today clock after ≤ day ∧ day < today clock after + 15 ∧
      day ≤ around.lastDay ∧ weekday day ∈ days ∧
      Counts around clock (wallOf hour minutes day) instant ∧
      OnQuarter around clock (wallOf hour minutes day) ∧
      ∀ earlier, today clock after ≤ earlier → earlier < day →
        ∀ other, ¬Late around clock days hour minutes after earlier other) ∨
    Due around clock days hour minutes after = ∅ ∧
      ∀ day, today clock after ≤ day → day < today clock after + 15 →
        ∀ other, ¬Late around clock days hour minutes after day other

/-- A schedule fires at the first instant after this one that is due. -/
def FiresRight (clocks : Zone → Int → Int) (config : ScheduleConfig) (after : Int) : Prop :=
  match config.mode with
  | .interval =>
    nextFire around config after = some (after + ((max minIntervalSeconds
      (config.intervalAmount.toNat * unitSeconds config.intervalUnit) : Nat) : Int) * second)
  | .atTime =>
    ∃ zone hour minutes, zoneOf around config = some zone ∧
      parseTime config.time = some (hour, minutes) ∧
      ∀ instant, nextFire around config after = some instant ↔
        IsLeast (Due around (clocks zone) config.days hour minutes after) instant

/-- Where the clock can tell it, and the steps of quarter hours reach it. -/
def Reaches (clocks : Zone → Int → Int) (config : ScheduleConfig) (after : Int) : Prop :=
  match config.mode with
  | .interval =>
    after + ((max minIntervalSeconds
      (config.intervalAmount.toNat * unitSeconds config.intervalUnit) : Nat) : Int) * second ≤
        around.latest
  | .atTime =>
    ∃ zone hour minutes, zoneOf around config = some zone ∧
      parseTime config.time = some (hour, minutes) ∧
      Reached around (clocks zone) config.days hour minutes after

variable {around} {clock : Int → Int} {days : List Weekday} {hour minutes : Nat} {after : Int}

theorem steps_of_counts {wall instant : Int} (quarter : OnQuarter around clock wall)
    (counts : Counts around clock wall instant) : Steps around clock wall instant := by
  obtain ⟨k, below, first⟩ := quarter
  obtain ⟨shown, first', least⟩ := counts
  obtain rfl := first.unique first'
  refine ⟨k, below, ⟨first.1.2, ?_⟩, least⟩
  intro j shown
  have ordered := first.2 ⟨by omega, shown⟩
  omega

/-- Where a step is the minute at which an earlier time counts, its own time counts there. -/
theorem counts_of_steps {day due instant : Int}
    (steps : Steps around clock (wallOf hour minutes day) instant)
    (counts : Counts around clock (wallOf hour minutes due) instant) :
    Counts around clock (wallOf hour minutes day) instant ∧
      OnQuarter around clock (wallOf hour minutes day) := by
  obtain ⟨k, below, first, least⟩ := steps
  obtain ⟨shown, first', least'⟩ := counts
  obtain rfl := shows_unique least.1 least'.1
  have near := first'.1.1
  have ordered : wallOf hour minutes due ≤ wallOf hour minutes day := by
    simp only [wallOf] at near ⊢
    omega
  have exists_ : Exists around clock (wallOf hour minutes day)
      (wallOf hour minutes day + 15 * k) := by
    refine ⟨⟨by omega, first.1⟩, ?_⟩
    rintro m ⟨above, shown⟩
    exact first'.2 ⟨ordered.trans above, shown⟩
  exact ⟨⟨_, exists_, least⟩, k, below, exists_⟩

theorem firstLate_right_iff :
    (∀ instant, FirstLate around clock days hour minutes after (today clock after) 15 instant ↔
        IsLeast (Due around clock days hour minutes after) instant) ↔
      Reached around clock days hour minutes after := by
  constructor
  · intro right
    by_cases due : (Due around clock days hour minutes after).Nonempty
    · obtain ⟨instant, member, lowest⟩ := Int.exists_least_of_bdd
        ⟨after, fun x (inside : x ∈ Due around clock days hour minutes after) => by
          obtain ⟨_, _, _, _, later⟩ := inside
          exact later.le⟩ due
      obtain ⟨day, lower, upper, late, before⟩ := (right instant).mpr ⟨member, lowest⟩
      obtain ⟨inside, chosen, steps, -⟩ := late
      have whole := member
      obtain ⟨other, -, -, counts, -⟩ := member
      obtain ⟨own, quarter⟩ := counts_of_steps steps counts
      exact Or.inl
        ⟨day, instant, ⟨whole, lowest⟩, lower, upper, inside, chosen, own, quarter, before⟩
    · refine Or.inr ⟨Set.not_nonempty_iff_eq_empty.mp due, ?_⟩
      intro day lower upper other late
      obtain ⟨first, found⟩ := firstLate_exists lower upper late
      exact due ⟨first, ((right first).mp found).1⟩
  · rintro (⟨day, x, least, lower, upper, inside, chosen, counts, quarter, before⟩ | ⟨empty, never⟩)
    · have later : after < x := by
        obtain ⟨_, _, _, _, later⟩ := least.1
        exact later
      have first : FirstLate around clock days hour minutes after (today clock after) 15 x :=
        ⟨day, lower, upper, ⟨inside, chosen, steps_of_counts quarter counts, later⟩, before⟩
      intro instant
      constructor
      · intro found
        rw [firstLate_unique found first]
        exact least
      · intro least'
        rw [least'.unique least]
        exact first
    · intro instant
      refine iff_of_false ?_ ?_
      · rintro ⟨day, lower, upper, late, -⟩
        exact never day lower upper instant late
      · intro least
        have member := least.1
        rw [empty] at member
        exact member

theorem parseTime_bounds {text : Text} {hour minutes : Nat}
    (read : parseTime text = some (hour, minutes)) : hour < 24 ∧ minutes < 60 := by
  obtain ⟨⟨h, m⟩, -, read⟩ := Option.bind_eq_some_iff.mp read
  obtain ⟨h, -, read⟩ := Option.bind_eq_some_iff.mp read
  obtain ⟨m, -, read⟩ := Option.bind_eq_some_iff.mp read
  split at read
  · cases read
    assumption
  · cases read

/-- The clocks of New York go from 02:00 to 03:00 at 2026-03-08T07:00Z. -/
def spring : Int := 1772953200 * second

def newYorkClock (instant : Int) : Int :=
  if instant < spring then -(5 * 3600 * second) else -(4 * 3600 * second)

def newYorkLocal (wall : Int) : LocalResult :=
  let early := wall * perMinute + 5 * 3600 * second
  let late := wall * perMinute + 4 * 3600 * second
  if early < spring then .single early
  else if spring ≤ late ∧ late < 95026237 * 86400 * second then .single late
  else .none

def newYork : Surroundings Unit ScheduleConfig where
  latest := 95026237 * 86400 * second - 1
  lastDay := 95026236
  machineZone := ()
  zoneNamed name := if name = "America/New_York".toList then some () else none
  localDay _ := today newYorkClock
  fromLocal _ := newYorkLocal
  signature config := config
  signature_injective := Function.injective_id

theorem newYorkClock_cases (t : Int) :
    t < spring ∧ newYorkClock t = -(5 * 3600 * second) ∨
      spring ≤ t ∧ newYorkClock t = -(4 * 3600 * second) := by
  by_cases early : t < spring
  · exact Or.inl ⟨early, if_pos early⟩
  · exact Or.inr ⟨Int.not_lt.mp early, if_neg early⟩

theorem newYorkLocal_iff {wall : Int} (bound : wall < (newYork.lastDay + 1) * 1440) (t : Int) :
    newYorkLocal wall = .single t ↔ Shows newYork newYorkClock wall t := by
  have last : newYork.latest = 95026237 * 86400 * second - 1 := rfl
  have days : newYork.lastDay = 95026236 := rfl
  rw [days] at bound
  unfold newYorkLocal Shows
  rw [last, days]
  dsimp only
  rcases newYorkClock_cases t with ⟨side, away⟩ | ⟨side, away⟩ <;> rw [away] <;> split
  · rename_i early
    simp only [spring, perMinute, second, LocalResult.single.injEq] at side early ⊢
    omega
  · rename_i early
    split
    · rename_i late
      simp only [spring, perMinute, second, LocalResult.single.injEq] at side early late ⊢
      omega
    · refine iff_of_false (fun found => by cases found) ?_
      simp only [spring, perMinute, second] at side early ⊢
      omega
  · rename_i early
    simp only [spring, perMinute, second, LocalResult.single.injEq] at side early ⊢
    omega
  · split
    · rename_i late
      simp only [spring, perMinute, second, LocalResult.single.injEq] at side late ⊢
      omega
    · rename_i gap
      refine iff_of_false (fun found => by cases found) ?_
      simp only [spring, perMinute, second] at side gap ⊢
      omega

theorem newYork_describes (zone : Unit) : Describes newYork zone newYorkClock := by
  refine ⟨fun _ => rfl, ?_, ?_, ?_⟩
  · rintro wall bound skipped ⟨t, shows⟩
    have single := (newYorkLocal_iff bound t).mpr shows
    rw [show newYorkLocal wall = .none from skipped] at single
    cases single
  · intro wall instant bound found
    have single : newYorkLocal wall = .single instant := found
    refine ⟨(newYorkLocal_iff bound instant).mp single, ?_⟩
    intro t shows
    have again := (newYorkLocal_iff bound t).mpr shows
    rw [single] at again
    cases again
    exact le_refl _
  · intro wall first again _ found
    have ambiguous : newYorkLocal wall = .ambiguous first again := found
    unfold newYorkLocal at ambiguous
    dsimp only at ambiguous
    split at ambiguous
    · cases ambiguous
    · split at ambiguous <;> cases ambiguous

def sundays (time : Text) : ScheduleConfig where
  mode := .atTime
  intervalAmount := 0
  intervalUnit := .minutes
  time := time
  days := [.sun]
  timezone := "America/New_York".toList

end Fires

end DbFree.Workflows.Schedule
