import DbFree.Machine
import DbFree.Texts

/- The Stop button's registry: one cancellation token for each in-flight run, and the
block that registers a run before its handler starts and finishes it afterwards. -/
namespace DbFree.Stop

/-- A cancellation token, known by its number; its clones share one flag. -/
abbrev CancellationToken := Nat

structure QueryRuns where
  runs : Text → Option CancellationToken
  /-- The flags of the tokens. -/
  isCancelled : CancellationToken → Bool
  /-- The number of the next token. -/
  minted : Nat

namespace QueryRuns

def default : QueryRuns where
  runs _ := none
  isCancelled _ := false
  minted := 0

def register (registry : QueryRuns) (runId : Text) : CancellationToken × QueryRuns :=
  let token := registry.minted
  (token, { registry with
    runs := Function.update registry.runs runId (some token)
    minted := registry.minted + 1 })

def cancel (registry : QueryRuns) (runId : Text) : Bool × QueryRuns :=
  match registry.runs runId with
  | some token =>
    (true, { registry with isCancelled := Function.update registry.isCancelled token true })
  | none => (false, registry)

def finish (registry : QueryRuns) (runId : Text) : QueryRuns :=
  { registry with runs := Function.update registry.runs runId none }

def isRunning (registry : QueryRuns) (runId : Text) : Bool := (registry.runs runId).isSome

@[simp]
theorem cancel_runs (registry : QueryRuns) (runId : Text) :
    (registry.cancel runId).2.runs = registry.runs := by
  unfold cancel
  split <;> rfl

@[simp]
theorem cancel_minted (registry : QueryRuns) (runId : Text) :
    (registry.cancel runId).2.minted = registry.minted := by
  unfold cancel
  split <;> rfl

theorem cancel_of_running {registry : QueryRuns} {runId : Text} {token : CancellationToken}
    (running : registry.runs runId = some token) :
    (registry.cancel runId).1 = true ∧ (registry.cancel runId).2.isCancelled token = true := by
  rw [cancel, running]
  exact ⟨rfl, Function.update_self ..⟩

theorem cancel_of_stopped {registry : QueryRuns} {runId : Text}
    (stopped : registry.runs runId = none) : (registry.cancel runId).1 = false := by
  rw [cancel, stopped]

end QueryRuns

/-- A run of the block: the id it registered, and the token it races. -/
structure Run where
  runId : Text
  token : CancellationToken
  finished : Bool
deriving DecidableEq

/-- The registry and the runs so far, the latest first. -/
structure Blocks where
  registry : QueryRuns
  started : List Run

inductive Call where
  | register (runId : Text)
  | cancel (runId : Text)
  /-- The run that holds this token finishes. -/
  | finish (token : CancellationToken)
deriving DecidableEq

namespace Blocks

def start : Blocks := ⟨QueryRuns.default, []⟩

def latest (blocks : Blocks) (runId : Text) : Option Run :=
  blocks.started.find? (·.runId = runId)

def holder (blocks : Blocks) (token : CancellationToken) : Option Run :=
  blocks.started.find? (·.token = token)

def markFinished (token : CancellationToken) (run : Run) : Run :=
  if run.token = token then { run with finished := true } else run

/-- Each run registers its id once and finishes once; anyone may cancel at any time. -/
def step (blocks : Blocks) : Call → Option Blocks
  | .register runId =>
    let (token, registry) := blocks.registry.register runId
    some ⟨registry, ⟨runId, token, false⟩ :: blocks.started⟩
  | .cancel runId => some { blocks with registry := (blocks.registry.cancel runId).2 }
  | .finish token =>
    match blocks.holder token with
    | some run =>
      if run.finished then none
      else some ⟨blocks.registry.finish run.runId, blocks.started.map (markFinished token)⟩
    | none => none

/-- While the latest run of an id has not finished, cancelling the id reaches it. -/
def StopReaches (blocks : Blocks) : Prop :=
  ∀ runId run, blocks.latest runId = some run → run.finished = false →
    (blocks.registry.cancel runId).1 = true ∧
      (blocks.registry.cancel runId).2.isCancelled run.token = true

/-- Whoever finishes is the latest run of its id, or the latest one finished before it. -/
def FinishesLatest (blocks : Blocks) : Call → Prop
  | .finish token =>
    ∀ run latest, blocks.holder token = some run → blocks.latest run.runId = some latest →
      latest.finished = false → latest = run
  | _ => True

/-- The unfinished latest run of an id is the one on the map, and no two runs share a token. -/
structure Inv (blocks : Blocks) : Prop where
  mapped : ∀ runId run, blocks.latest runId = some run → run.finished = false →
    blocks.registry.runs runId = some run.token
  minted : ∀ run ∈ blocks.started, run.token < blocks.registry.minted
  distinct : (blocks.started.map Run.token).Nodup

theorem start_inv : start.Inv where
  mapped := by simp [start, latest]
  minted := by simp [start]
  distinct := by simp [start]

theorem stopReaches_of_inv {blocks : Blocks} (inv : blocks.Inv) : blocks.StopReaches := by
  intro runId run latest_run unfinished
  exact QueryRuns.cancel_of_running (inv.mapped runId run latest_run unfinished)

/-- What a finish does: the run was running, its id leaves the map and it alone is marked. -/
theorem step_finish {blocks next : Blocks} {token : CancellationToken}
    (stepped : blocks.step (.finish token) = some next) :
    ∃ run, blocks.holder token = some run ∧ run.finished = false ∧
      next = ⟨blocks.registry.finish run.runId, blocks.started.map (markFinished token)⟩ := by
  rw [step] at stepped
  cases held : blocks.holder token with
  | none => simp [held] at stepped
  | some run =>
    simp only [held, Option.ite_none_left_eq_some, Bool.not_eq_true] at stepped
    exact ⟨run, rfl, stepped.1, (Option.some.inj stepped.2).symm⟩

@[simp]
theorem markFinished_runId (token : CancellationToken) (run : Run) :
    (markFinished token run).runId = run.runId := by
  unfold markFinished
  split <;> rfl

@[simp]
theorem markFinished_token (token : CancellationToken) (run : Run) :
    (markFinished token run).token = run.token := by
  unfold markFinished
  split <;> rfl

theorem markFinished_of_ne {token : CancellationToken} {run : Run} (other : run.token ≠ token) :
    markFinished token run = run := by
  rw [markFinished, if_neg other]

theorem markFinished_self (run : Run) : (markFinished run.token run).finished = true := by
  rw [markFinished, if_pos rfl]

theorem latest_markFinished (registry : QueryRuns) (started : List Run)
    (token : CancellationToken) (runId : Text) :
    latest ⟨registry, started.map (markFinished token)⟩ runId =
      (latest ⟨registry, started⟩ runId).map (markFinished token) := by
  simp only [latest, List.find?_map]
  congr 2
  funext run
  simp

theorem holder_token {blocks : Blocks} {token : CancellationToken} {run : Run}
    (held : blocks.holder token = some run) : run.token = token := by
  simpa using List.find?_some held

theorem holder_mem {blocks : Blocks} {token : CancellationToken} {run : Run}
    (held : blocks.holder token = some run) : run ∈ blocks.started :=
  List.mem_of_find?_eq_some held

theorem latest_mem {blocks : Blocks} {runId : Text} {run : Run}
    (found : blocks.latest runId = some run) : run ∈ blocks.started :=
  List.mem_of_find?_eq_some found

theorem latest_registry (first second : QueryRuns) (started : List Run) (runId : Text) :
    latest ⟨first, started⟩ runId = latest ⟨second, started⟩ runId := rfl

theorem Inv.same_run {blocks : Blocks} (inv : blocks.Inv) {first second : Run}
    (first_mem : first ∈ blocks.started) (second_mem : second ∈ blocks.started)
    (same : first.token = second.token) : first = second :=
  List.inj_on_of_nodup_map inv.distinct first_mem second_mem same

theorem register_keeps {blocks : Blocks} (inv : blocks.Inv) (runId : Text) :
    Inv ⟨(blocks.registry.register runId).2,
      ⟨runId, (blocks.registry.register runId).1, false⟩ :: blocks.started⟩ := by
  refine ⟨?_, ?_, ?_⟩
  · intro otherId run found unfinished
    by_cases same : runId = otherId
    · subst same
      have newest : (⟨runId, blocks.registry.minted, false⟩ : Run) = run := by
        simpa [latest, QueryRuns.register] using found
      rw [← newest]
      exact Function.update_self ..
    · have older : blocks.latest otherId = some run := by
        simpa [latest, same] using found
      show Function.update blocks.registry.runs runId _ otherId = _
      rw [Function.update_of_ne (Ne.symm same)]
      exact inv.mapped otherId run older unfinished
  · intro run mem
    show run.token < blocks.registry.minted + 1
    cases List.mem_cons.mp mem with
    | inl newest =>
      rw [newest]
      exact Nat.lt_succ_self _
    | inr older => exact Nat.lt_succ_of_lt (inv.minted run older)
  · rw [List.map_cons, List.nodup_cons]
    refine ⟨?_, inv.distinct⟩
    intro mem
    obtain ⟨run, older, token_eq⟩ := List.mem_map.mp mem
    have below := inv.minted run older
    rw [token_eq] at below
    exact Nat.lt_irrefl _ below

theorem cancel_keeps {blocks : Blocks} (inv : blocks.Inv) (runId : Text) :
    Inv { blocks with registry := (blocks.registry.cancel runId).2 } := by
  refine ⟨?_, ?_, inv.distinct⟩
  · intro otherId run found unfinished
    rw [QueryRuns.cancel_runs]
    exact inv.mapped otherId run found unfinished
  · intro run mem
    rw [QueryRuns.cancel_minted]
    exact inv.minted run mem

theorem finish_keeps {blocks : Blocks} (inv : blocks.Inv) {token : CancellationToken} {run : Run}
    (held : blocks.holder token = some run) (meets : blocks.FinishesLatest (.finish token)) :
    Inv ⟨blocks.registry.finish run.runId, blocks.started.map (markFinished token)⟩ := by
  refine ⟨?_, ?_, ?_⟩
  · intro otherId marked found unfinished
    rw [latest_markFinished] at found
    obtain ⟨before, latest_before, marked_eq⟩ := Option.map_eq_some_iff.mp found
    have other_token : before.token ≠ token := by
      intro same
      rw [← marked_eq, ← same, markFinished_self] at unfinished
      exact Bool.noConfusion unfinished
    rw [markFinished_of_ne other_token] at marked_eq
    subst marked_eq
    have other_id : otherId ≠ run.runId := by
      intro same
      rw [same] at latest_before
      have latest_run := meets run before held latest_before unfinished
      exact other_token (by rw [latest_run]; exact holder_token held)
    show Function.update blocks.registry.runs run.runId none otherId = _
    rw [Function.update_of_ne other_id]
    exact inv.mapped otherId before latest_before unfinished
  · intro marked mem
    obtain ⟨before, before_mem, marked_eq⟩ := List.mem_map.mp mem
    rw [← marked_eq, markFinished_token]
    exact inv.minted before before_mem
  · rw [List.map_map]
    have tokens : (Run.token ∘ markFinished token) = Run.token :=
      funext fun before => markFinished_token token before
    rw [tokens]
    exact inv.distinct

theorem step_keeps (blocks : Blocks) (call : Call) (next : Blocks) (inv : blocks.Inv)
    (meets : blocks.FinishesLatest call) (stepped : blocks.step call = some next) : next.Inv := by
  cases call with
  | register runId =>
    cases stepped
    exact register_keeps inv runId
  | cancel runId =>
    cases stepped
    exact cancel_keeps inv runId
  | finish token =>
    obtain ⟨run, held, -, next_eq⟩ := step_finish stepped
    rw [next_eq]
    exact finish_keeps inv held meets

/-- An older run that finishes takes the newer one off the map. -/
theorem step_breaks (blocks : Blocks) (call : Call) (next : Blocks) (inv : blocks.Inv)
    (fails : ¬blocks.FinishesLatest call) (stepped : blocks.step call = some next) :
    ¬next.StopReaches := by
  cases call with
  | register runId => exact absurd trivial fails
  | cancel runId => exact absurd trivial fails
  | finish token =>
    obtain ⟨run, held, -, next_eq⟩ := step_finish stepped
    intro reaches
    apply fails
    intro holder newer held_again latest_newer unfinished
    rw [held] at held_again
    cases held_again
    by_contra different
    have other_token : newer.token ≠ token := by
      intro same
      apply different
      apply inv.same_run (latest_mem latest_newer) (holder_mem held)
      rw [same, holder_token held]
    rw [next_eq] at reaches
    have still_latest : latest ⟨blocks.registry.finish run.runId,
        blocks.started.map (markFinished token)⟩ run.runId = some newer := by
      rw [latest_markFinished, latest_registry _ blocks.registry]
      show (blocks.latest run.runId).map _ = _
      rw [latest_newer, Option.map_some, markFinished_of_ne other_token]
    have reached := (reaches run.runId newer still_latest unfinished).1
    rw [QueryRuns.cancel_of_stopped (Function.update_self ..)] at reached
    exact Bool.noConfusion reached

/-- Stop reaches the latest run of every id throughout exactly those runs of the block in
which no older run of an id finishes while the latest one is still running. -/
theorem stop_reaches_iff (calls : List Call) :
    Machine.Throughout step StopReaches start calls ↔
      Machine.Along step FinishesLatest start calls :=
  Machine.throughout_iff_along (fun _ inv => stopReaches_of_inv inv) step_keeps step_breaks
    start_inv calls

/-- Two runs of one id overlap: when the older one finishes, Stop no longer finds the newer. -/
theorem older_finish_hides_newer :
    ¬Machine.Throughout step StopReaches start
      [.register "run-1".toList, .register "run-1".toList, .finish 0] := by
  intro holds
  have after := ((holds.2 _ rfl).2 _ rfl).2 _ rfl
  have reached := after "run-1".toList ⟨"run-1".toList, 1, false⟩ (by decide) rfl
  exact absurd reached.1 (by decide)

/-- A call for the run's id came while the id stood for the run. -/
def StoppedBy (calls : List Call) (runId : Text) (token : CancellationToken) : Prop :=
  ∃ before after reached, calls = before ++ .cancel runId :: after ∧
    Machine.run step start before = some reached ∧ reached.registry.runs runId = some token

/-- The map holds runs that have not finished, and tokens are tripped for a reason. -/
structure Fair (calls : List Call) (blocks : Blocks) : Prop where
  listed : ∀ runId token, blocks.registry.runs runId = some token →
    ⟨runId, token, false⟩ ∈ blocks.started
  minted : ∀ run ∈ blocks.started, run.token < blocks.registry.minted
  distinct : (blocks.started.map Run.token).Nodup
  quiet : ∀ token, blocks.registry.minted ≤ token → blocks.registry.isCancelled token = false
  stopped : ∀ run ∈ blocks.started, blocks.registry.isCancelled run.token = true →
    StoppedBy calls run.runId run.token

theorem StoppedBy.more {calls : List Call} {runId : Text} {token : CancellationToken}
    (stopped : StoppedBy calls runId token) (call : Call) :
    StoppedBy (calls ++ [call]) runId token := by
  obtain ⟨before, after, reached, rfl, rest⟩ := stopped
  exact ⟨before, after ++ [call], reached, by simp, rest⟩

theorem Fair.step {calls : List Call} {call : Call} {blocks next : Blocks}
    (fair : Fair calls blocks) (reaches : Machine.run step start calls = some blocks)
    (stepped : blocks.step call = some next) : Fair (calls ++ [call]) next := by
  cases call with
  | register runId =>
    cases stepped
    refine ⟨fun id token found => ?_, ?_, ?_, fun token above => fair.quiet token (by
      have : blocks.registry.minted + 1 ≤ token := above
      omega), ?_⟩
    · change Function.update blocks.registry.runs runId _ id = _ at found
      by_cases same : id = runId
      · subst same
        rw [Function.update_self] at found
        rw [← Option.some.inj found]
        exact List.mem_cons_self
      · rw [Function.update_of_ne same] at found
        exact List.mem_cons_of_mem _ (fair.listed id token found)
    · exact List.forall_mem_cons.mpr ⟨Nat.lt_succ_self _, fun run member =>
        Nat.lt_succ_of_lt (fair.minted run member)⟩
    · refine List.nodup_cons.mpr ⟨fun member => ?_, fair.distinct⟩
      obtain ⟨run, older, same⟩ := List.mem_map.mp member
      exact (fair.minted run older).ne same
    · refine List.forall_mem_cons.mpr ⟨fun tripped => ?_, fun run member tripped =>
        (fair.stopped run member tripped).more _⟩
      change blocks.registry.isCancelled blocks.registry.minted = true at tripped
      rw [fair.quiet _ le_rfl] at tripped
      cases tripped
  | cancel runId =>
    cases stepped
    refine ⟨by simpa using fair.listed, by simpa using fair.minted, fair.distinct, ?_, ?_⟩ <;>
      unfold QueryRuns.cancel <;> split
    · rename_i token listed
      intro other above
      have made := fair.minted _ (fair.listed runId token listed)
      change Function.update blocks.registry.isCancelled token true other = false
      rw [Function.update_of_ne (made.trans_le above).ne']
      exact fair.quiet other above
    · exact fair.quiet
    · rename_i token listed
      intro run member tripped
      by_cases same : run.token = token
      · have own := List.inj_on_of_nodup_map fair.distinct member (fair.listed runId token listed) same
        subst own
        exact ⟨calls, [], blocks, rfl, reaches, listed⟩
      · change Function.update blocks.registry.isCancelled token true run.token = true at tripped
        rw [Function.update_of_ne same] at tripped
        exact (fair.stopped run member tripped).more _
    · exact fun run member tripped => (fair.stopped run member tripped).more _
  | finish token =>
    obtain ⟨run, held, -, next_eq⟩ := step_finish stepped
    subst next_eq
    refine ⟨fun id other found => ?_, ?_, ?_, fair.quiet, ?_⟩
    · change Function.update blocks.registry.runs run.runId none id = _ at found
      have different : id ≠ run.runId := by
        rintro rfl
        rw [Function.update_self] at found
        cases found
      rw [Function.update_of_ne different] at found
      refine List.mem_map.mpr ⟨_, fair.listed id other found, markFinished_of_ne fun same => ?_⟩
      have own := List.inj_on_of_nodup_map fair.distinct (fair.listed id other found)
        (holder_mem held) (same.trans (holder_token held).symm)
      exact different (congrArg Run.runId own)
    · simpa [QueryRuns.finish] using fair.minted
    · rw [List.map_map]
      simpa [Function.comp_def] using fair.distinct
    · simpa [QueryRuns.finish] using fun before member tripped =>
        (fair.stopped before member tripped).more _

theorem fair_of_run (calls : List Call) (blocks : Blocks)
    (reaches : Machine.run step start calls = some blocks) : Fair calls blocks := by
  induction calls using List.reverseRecOn generalizing blocks with
  | nil =>
    cases reaches
    constructor <;> simp [start, QueryRuns.default]
  | append_singleton calls call hypothesis =>
    rw [Machine.run_append] at reaches
    obtain ⟨before, earlier, last⟩ := Option.bind_eq_some_iff.mp reaches
    rw [Machine.run_cons, Option.bind_eq_some_iff] at last
    obtain ⟨next, stepped, done⟩ := last
    cases done
    exact (hypothesis before earlier).step earlier stepped

/-- Whatever overlaps, an id stands for one of its own runs that has not finished, and a run is
stopped only by a call for its id made while the id stood for it. -/
theorem stop_spares_others (calls : List Call) (blocks : Blocks)
    (reaches : Machine.run step start calls = some blocks) :
    (∀ runId, blocks.registry.isRunning runId = true → ∃ token,
      blocks.registry.runs runId = some token ∧ ⟨runId, token, false⟩ ∈ blocks.started) ∧
    ∀ run ∈ blocks.started, blocks.registry.isCancelled run.token = true →
      StoppedBy calls run.runId run.token := by
  have fair := fair_of_run calls blocks reaches
  refine ⟨fun runId running => ?_, fair.stopped⟩
  obtain ⟨token, found⟩ := Option.isSome_iff_exists.mp running
  exact ⟨token, found, fair.listed runId token found⟩

theorem second_alone_stopped : ∃ blocks,
    Machine.run step start [.register ['a'], .register ['b'], .cancel ['b']] = some blocks ∧
      blocks.started.map (fun run => blocks.registry.isCancelled run.token) = [true, false] ∧
      ∀ run ∈ blocks.started, blocks.registry.isCancelled run.token = true →
        StoppedBy [.register ['a'], .register ['b'], .cancel ['b']] run.runId run.token :=
  ⟨_, rfl, rfl, (stop_spares_others _ _ rfl).2⟩

end Blocks

end DbFree.Stop
